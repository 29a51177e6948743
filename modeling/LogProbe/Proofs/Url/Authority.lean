/-
**What a URL in a scheme of HTTP is read from.** Behind the scheme and any number of slashes stand
perhaps a user, then a host and perhaps a port. What follows them is the path, up to the query or
the fragment.

* `Url.IsAuthorityOf`, `Url.readAuthority_eq_ok_iff` — the parts of an authority.
* `Url.IsReadFrom`, `Url.parse_eq_ok_iff` — the parts of a URL.
-/

import LogProbe.Url.Parse
import Mathlib.Data.List.TakeWhile

namespace LogProbe

/-- The value that a result hands on, where what follows succeeds. -/
theorem exists_of_bind_eq_ok {ε α β : Type} {result : Except ε α} {next : α → Except ε β}
    {final : β} (succeeded : result.bind next = .ok final) :
    ∃ value, result = .ok value ∧ next value = .ok final := by
  cases result with
  | error error => cases succeeded
  | ok value => exact ⟨value, rfl, succeeded⟩

namespace Url

theorem bne_of_not_mem {mark : Char} {text : List Char} (free : mark ∉ text) :
    ∀ c ∈ text, (c != mark) = true := by
  intro c member
  rw [bne_iff_ne]
  rintro rfl
  exact free member

/-- What stands in front of the first character that is not of a kind, and what begins there. -/
theorem span_append {kind : Char → Bool} {front : List Char}
    (inside : ∀ c ∈ front, kind c = true) {c : Char} (ends : kind c = false) (rest : List Char) :
    (front ++ c :: rest).takeWhile kind = front ∧
      (front ++ c :: rest).dropWhile kind = c :: rest := by
  have stops : ¬ kind c = true := Bool.eq_false_iff.mp ends
  constructor
  · rw [List.takeWhile_append_of_pos inside, List.takeWhile_cons_of_neg stops, List.append_nil]
  · rw [List.dropWhile_append_of_pos inside, List.dropWhile_cons_of_neg stops]

theorem isSpecial_of_isHttp {scheme : String} (http : scheme = "http" ∨ scheme = "https") :
    isSpecial scheme = true ∧ scheme ≠ "file" := by
  rcases http with rfl | rfl <;> decide

/-! ### Authorities -/

/-- The port in the text behind a host, and what follows it. -/
inductive IsPortOf (scheme : String) : List Char → Option Nat → List Char → Prop
  | given {text : List Char} {port : Option Nat}
      (read : readPort scheme (text.takeWhile isDecimal) (text.dropWhile isDecimal) = .ok port) :
      IsPortOf scheme (':' :: text) port (text.dropWhile isDecimal)
  | absent {text : List Char} (noColon : text.head? ≠ some ':') : IsPortOf scheme text none text

/-- The authority in the text behind the slashes of a special scheme, and what follows it. -/
inductive IsAuthorityOf (scheme : String) : List Char → Authority → List Char → Prop
  | intro {text behindUser hostText behindHost rest user : List Char}
      {password : Option (List Char)} {host : Host} {port : Option Nat}
      (userinfo : splitUserinfo true text = .ok ((user, password), behindUser))
      (bounded : readHostText true false behindUser = (hostText, behindHost))
      (given : hostText ≠ []) (hosted : Host.ofText hostText = .ok host)
      (ported : IsPortOf scheme behindHost port rest) :
      IsAuthorityOf scheme text ⟨user, password, some host, port⟩ rest

/-- **The authority of a URL in a special scheme.** -/
theorem readAuthority_eq_ok_iff {scheme : String} (special : isSpecial scheme = true)
    {text rest : List Char} {authority : Authority} :
    readAuthority scheme text = .ok (authority, rest) ↔
      IsAuthorityOf scheme text authority rest := by
  unfold readAuthority
  simp only [special, and_true, if_true]
  constructor
  · intro read
    obtain ⟨⟨⟨user, password⟩, behindUser⟩, userinfo, read⟩ := exists_of_bind_eq_ok read
    dsimp only at read
    split at read
    · cases read
    rename_i given
    cases hosted : Host.ofText (readHostText true false behindUser).1 with
    | error error =>
      rw [hosted] at read
      cases read
    | ok host =>
      rw [hosted] at read
      simp only [Except.map, bind, Except.bind, reduceCtorEq, if_false, false_and] at read
      split at read
      · rename_i text behindHost
        obtain ⟨port, ported, read⟩ := exists_of_bind_eq_ok read
        cases read
        have bounded : readHostText true false behindUser =
            ((readHostText true false behindUser).1, ':' :: text) := Prod.ext rfl behindHost
        exact .intro userinfo bounded given hosted (.given ported)
      · rename_i noColon
        cases read
        refine .intro userinfo rfl given hosted (.absent fun colon => ?_)
        obtain ⟨text, behindHost⟩ := List.head?_eq_some_iff.mp colon
        exact noColon text behindHost
  · intro shaped
    cases shaped with
    | intro userinfo bounded given hosted ported =>
      simp only [userinfo, bounded, hosted, if_neg given, Except.map, bind, Except.bind,
        reduceCtorEq, if_false, false_and]
      cases ported with
      | given read => simp only [read]
      | absent noColon =>
        split
        · rename_i text
          exact absurd rfl noColon
        · rfl

/-! ### Users -/

/-- A text that does not hold the mark is not split at it. -/
theorem splitAtLast?_eq_none {mark : Char} {text : List Char} (free : mark ∉ text) :
    splitAtLast? mark text = none := by
  have turned : mark ∉ text.reverse := mt List.mem_reverse.mp free
  unfold splitAtLast?
  rw [List.dropWhile_eq_nil_iff.mpr (bne_of_not_mem turned)]

theorem splitUserinfo_of_free {special : Bool} {text : List Char} (free : '@' ∉ text) :
    splitUserinfo special text = .ok (([], none), text) := by
  have front : '@' ∉ text.takeWhile fun c => !endsAuthority special c := fun member =>
    free ((List.takeWhile_sublist _).mem member)
  unfold splitUserinfo
  rw [splitAtLast?_eq_none front]

/-- A text is split at the last mark in it. -/
theorem splitAtLast?_append {mark : Char} {back : List Char} (free : mark ∉ back)
    (front : List Char) : splitAtLast? mark (front ++ mark :: back) = some front := by
  have turned : mark ∉ back.reverse := mt List.mem_reverse.mp free
  unfold splitAtLast?
  rw [List.reverse_append, List.reverse_cons, List.append_assoc, List.singleton_append,
    (span_append (bne_of_not_mem turned) (bne_self_eq_false' mark) front.reverse).2]
  exact congrArg some (List.reverse_reverse front)

/-! ### URLs -/

/-- What stands behind the scheme of a text and its colon. -/
def behindScheme (text : List Char) : List Char :=
  ((trimmed text).dropWhile (· != ':')).drop 1

theorem mem_of_mem_trimmed {c : Char} {text : List Char} (member : c ∈ trimmed text) :
    c ∈ text := by
  have inner := (List.dropWhile_sublist _).mem (List.mem_reverse.mp member)
  exact (List.dropWhile_sublist _).mem (List.mem_reverse.mp inner)

/-- What an authority is read from stands in the text. -/
theorem mem_of_mem_addressed {c : Char} {text : List Char}
    (member : c ∈ (significant (behindScheme text)).dropWhile (isSlash true)) : c ∈ text := by
  have counted := (List.dropWhile_sublist _).mem member
  have behind := List.mem_of_mem_drop (List.mem_filter.mp counted).1
  exact mem_of_mem_trimmed ((List.dropWhile_sublist _).mem behind)

/-- The URL in a scheme of HTTP of a text. -/
inductive IsReadFrom (text : List Char) : Url → Prop
  | intro {scheme : String} {authority : Authority} {rest : List Char}
      (http : scheme = "http" ∨ scheme = "https")
      (named : readScheme? (significant (trimmed text)) = some scheme)
      (addressed : IsAuthorityOf scheme
        ((significant (behindScheme text)).dropWhile (isSlash true)) authority rest) :
      IsReadFrom text
        { scheme
          authority := some authority
          path := readPath scheme (splitFront rest).1
          query := (splitSuffix (splitFront rest).2).1.map (Percent.encode Percent.specialQuery)
          fragment := (splitSuffix (splitFront rest).2).2.map (Percent.encode Percent.fragment) }

/-- **The URL in a scheme of HTTP of a text.** -/
theorem parse_eq_ok_iff {text : List Char} {url : Url} :
    parse text = .ok url ∧ url.isHttp = true ↔ IsReadFrom text url := by
  constructor
  · rintro ⟨parsed, isHttp⟩
    unfold parse at parsed
    dsimp only at parsed
    split at parsed
    · cases parsed
    rename_i scheme named
    obtain ⟨⟨authority, path, suffix⟩, read, parsed⟩ := exists_of_bind_eq_ok parsed
    cases parsed
    have http : scheme = "http" ∨ scheme = "https" := by simpa [Url.isHttp] using isHttp
    obtain ⟨special, notFile⟩ := isSpecial_of_isHttp http
    unfold readRest readOrigin at read
    rw [if_neg notFile, if_pos special] at read
    obtain ⟨⟨found, rest⟩, addressed, read⟩ := exists_of_bind_eq_ok read
    cases read
    simp only [special, if_true]
    exact .intro http named ((readAuthority_eq_ok_iff special).mp addressed)
  · intro shaped
    cases shaped with
    | @intro scheme authority rest http named addressed =>
      obtain ⟨special, notFile⟩ := isSpecial_of_isHttp http
      have read := (readAuthority_eq_ok_iff special).mpr addressed
      unfold behindScheme at read
      unfold parse readRest readOrigin
      simp only [named, if_neg notFile, special, if_true, bind, Except.bind, read, true_and]
      rcases http with rfl | rfl <;> rfl

end Url

end LogProbe
