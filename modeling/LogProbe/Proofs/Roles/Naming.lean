/-
**Names that are handed out do not repeat.** A name is read back to its parts, of which the counter
is another one for each name, whatever the tokens are. Its characters are letters, digits and
underscores, so that it stands as it is in a URL and in JSON.

* `RoleName.parts?_ofParts` — the parts come back.
* `RoleName.Source.getElem?_takeAll`, `RoleName.Source.nodup_takeAll` — the names of a source, each
  with its counter, no two the same.
* `RoleName.IsWordChar` — the characters of names, and what they are in paths and strings.
* `RoleName.Source.names_are_unique_and_safe` — the law.
-/

import LogProbe.Proofs.Session.Location
import LogProbe.Roles.Client
import Mathlib.Data.List.Nodup

namespace LogProbe

namespace RoleName

/-! ### The parts of a name -/

/-- The hexadecimal digits of a token. -/
def tokenDigits (token : UInt32) : List Char := (Bytes.bigEndian32 token).toHex.toList

theorem tokenDigits_eq (token : UInt32) :
    tokenDigits token = (Bytes.bigEndian32 token).flatMap fun byte =>
      [Nat.digitChar (byte.toNat / 16), Nat.digitChar (byte.toNat % 16)] := String.toList_ofList

theorem length_tokenDigits (token : UInt32) : (tokenDigits token).length = 8 := by
  rw [tokenDigits_eq]
  rfl

/-- The digits of a token are in lower case. -/
theorem isHexDigit_of_mem_tokenDigits {token : UInt32} :
    ∀ c ∈ tokenDigits token, isHexDigit c = true := by
  have all : ∀ n : Fin 16, isHexDigit (Nat.digitChar n.val) = true := by decide
  intro c member
  rw [tokenDigits_eq] at member
  obtain ⟨byte, -, digits⟩ := List.mem_flatMap.mp member
  have small : byte.toNat < 256 := byte.toNat_lt
  rcases List.mem_cons.mp digits with rfl | low
  · exact all ⟨byte.toNat / 16, by omega⟩
  · rw [List.mem_singleton.mp low]
    exact all ⟨byte.toNat % 16, by omega⟩

/-- The texts between the underscores of a name. -/
def pieces (process counter : Nat) (token : List Char) : List (List Char) :=
  [['r', 'o', 'l', 'e'], Nat.toDigits 10 process, Nat.toDigits 10 counter, token]

/-- A name is its pieces with underscores between them. -/
theorem toList_ofParts (process : Nat) (counter : UInt64) (token : UInt32) :
    (ofParts process counter token).text.toList =
      ['_'].intercalate (pieces process counter.toNat (tokenDigits token)) := by
  have shown (n : Nat) : (toString n).toList = Nat.toDigits 10 n := Nat.toList_repr
  have count : toString counter = toString counter.toNat := rfl
  have role : (toString "role_").toList = ['r', 'o', 'l', 'e', '_'] := by decide
  have mark : (toString "_").toList = ['_'] := by decide
  simp only [ofParts, pieces, tokenDigits, count, String.toList_append, shown, role, mark,
    List.intercalate_cons_cons, List.intercalate_singleton]
  simp only [List.append_assoc, List.cons_append, List.nil_append]

/-- A number is read back from its decimal digits. -/
theorem number?_toDigits (n : Nat) : number? (Nat.toDigits 10 n) = some n := by
  have digits : Nat.toDigits 10 n ≠ [] ∧ (Nat.toDigits 10 n).all Char.isDigit = true :=
    ⟨(Json.isDigits_toDigits n).some, List.all_eq_true.mpr (Json.isDigits_toDigits n).all⟩
  have denoted := Nat.ofDigitChars_ten_toDigits (n := n)
  rw [Nat.ofDigitChars_eq_foldl] at denoted
  unfold number?
  rw [if_pos digits]
  exact congrArg some denoted

/-- No piece of a name holds an underscore. -/
theorem underscore_not_mem_pieces {process counter : Nat} {token : UInt32} :
    ∀ piece ∈ pieces process counter (tokenDigits token), '_' ∉ piece := by
  have decimal (n : Nat) : '_' ∉ Nat.toDigits 10 n := fun member =>
    absurd ((Json.isDigits_toDigits n).all '_' member) (by decide)
  simp only [pieces, List.forall_mem_cons]
  refine ⟨by decide, decimal process, decimal counter, fun member => ?_, List.forall_mem_nil _⟩
  exact absurd (isHexDigit_of_mem_tokenDigits '_' member) (by decide)

/-- **The parts of a name come back.** -/
theorem parts?_ofParts (process : Nat) (counter : UInt64) (token : UInt32) :
    (ofParts process counter token).parts? =
      some (process, counter.toNat, tokenDigits token) := by
  have hex : (tokenDigits token).length = 8 ∧ (tokenDigits token).all isHexDigit = true :=
    ⟨length_tokenDigits token, List.all_eq_true.mpr isHexDigit_of_mem_tokenDigits⟩
  unfold parts?
  rw [toList_ofParts, List.splitOn_intercalate '_' underscore_not_mem_pieces (by simp [pieces])]
  simp only [pieces, number?_toDigits, Option.bind_eq_bind, Option.bind_some, if_pos hex]

/-! ### The names of a source -/

namespace Source

theorem length_takeAll (source : Source) (tokens : List UInt32) :
    (source.takeAll tokens).length = tokens.length := by
  induction tokens generalizing source with
  | nil => rfl
  | cons token rest ih => exact congrArg (· + 1) (ih (source.take token).2)

/-- **The names of a source** have the counter of the source, and one more with each of them. -/
theorem getElem?_takeAll (source : Source) (tokens : List UInt32) (index : Nat) :
    (source.takeAll tokens)[index]? = tokens[index]?.map fun token =>
      ofParts source.process (source.counter + UInt64.ofNat index) token := by
  induction tokens generalizing source index with
  | nil => rfl
  | cons token rest ih =>
    cases index with
    | zero =>
      show some (ofParts source.process source.counter token) = _
      rw [List.getElem?_cons_zero, Option.map_some]
      simp
    | succ index =>
      have next : source.counter + 1 + UInt64.ofNat index =
          source.counter + UInt64.ofNat (index + 1) := by
        rw [UInt64.ofNat_add, UInt64.add_assoc, UInt64.add_comm 1]
        rfl
      show ((source.take token).2.takeAll rest)[index]? = _
      rw [ih, List.getElem?_cons_succ, ← next]
      rfl

end Source

/-! ### The characters of a name -/

/-- A letter or digit of ASCII, or an underscore. -/
def IsWordChar (c : Char) : Prop := c.isAlphanum = true ∨ c = '_'

instance : DecidablePred IsWordChar := fun c =>
  inferInstanceAs (Decidable (c.isAlphanum = true ∨ c = '_'))

theorem toNat_lt_of_isWordChar {c : Char} (word : IsWordChar c) : c.toNat < 128 := by
  suffices bounded : c.val ≤ 'Z'.val ∨ c.val ≤ 'z'.val ∨ c.val ≤ '9'.val ∨ c.val ≤ '_'.val by
    rcases bounded with bound | bound | bound | bound
    all_goals exact Nat.lt_of_le_of_lt (UInt32.le_iff_toNat_le.mp bound) (by decide)
  rcases word with alphanum | rfl
  · rcases Bool.or_eq_true_iff.mp alphanum with alpha | digit
    · rcases Bool.or_eq_true_iff.mp alpha with upper | lower
      · exact .inl (of_decide_eq_true upper).2
      · exact .inr (.inl (of_decide_eq_true (Bool.and_eq_true_iff.mp lower).2))
    · exact .inr (.inr (.inl (of_decide_eq_true (Bool.and_eq_true_iff.mp digit).2)))
  · exact .inr (.inr (.inr (UInt32.le_refl _)))

/-- **A letter, digit or underscore stands as it is**: it counts in a URL, no component of a path
encodes it, and no string escapes it. -/
theorem plain_of_isWordChar {c : Char} (word : IsWordChar c) :
    Url.isIgnored c = false ∧ Percent.component c = false ∧ Percent.specialComponent c = false ∧
      Json.escapedChar c = [c] := by
  have each : ∀ code : Fin 128, IsWordChar (Char.ofNat code) →
      Url.isIgnored (Char.ofNat code) = false ∧ Percent.component (Char.ofNat code) = false ∧
        Percent.specialComponent (Char.ofNat code) = false ∧
        Json.escapedChar (Char.ofNat code) = [Char.ofNat code] := by decide
  exact Percent.forall_ascii (P := fun c => IsWordChar c → Url.isIgnored c = false ∧
    Percent.component c = false ∧ Percent.specialComponent c = false ∧
      Json.escapedChar c = [c]) each (toNat_lt_of_isWordChar word) word

theorem isWordChar_of_isDigit {c : Char} (digit : c.isDigit = true) : IsWordChar c := by
  refine .inl ?_
  rw [Char.isAlphanum, digit, Bool.or_true]

theorem isWordChar_of_isHexDigit {c : Char} (hex : isHexDigit c = true) : IsWordChar c := by
  rcases Bool.or_eq_true_iff.mp hex with digit | letter
  · exact isWordChar_of_isDigit digit
  · obtain ⟨low, high⟩ := Bool.and_eq_true_iff.mp letter
    have above : 'a'.val ≤ c.val := of_decide_eq_true low
    have below : c.val ≤ 'f'.val := of_decide_eq_true high
    have lower : c.isLower = true := Bool.and_eq_true_iff.mpr
      ⟨decide_eq_true above, decide_eq_true (UInt32.le_trans below (by decide))⟩
    exact .inl (Bool.or_eq_true_iff.mpr (.inl (Bool.or_eq_true_iff.mpr (.inr lower))))

/-- The characters of a name with parts. -/
theorem isWordChar_of_mem_ofParts {process : Nat} {counter : UInt64} {token : UInt32} :
    ∀ c ∈ (ofParts process counter token).text.toList, IsWordChar c := by
  have decimal (n : Nat) : ∀ c ∈ Nat.toDigits 10 n, IsWordChar c := fun c member =>
    isWordChar_of_isDigit ((Json.isDigits_toDigits n).all c member)
  have inside : ∀ piece ∈ pieces process counter.toNat (tokenDigits token),
      ∀ c ∈ piece, IsWordChar c := by
    simp only [pieces, List.forall_mem_cons]
    exact ⟨⟨by decide, by decide, by decide, by decide, List.forall_mem_nil _⟩, decimal process,
      decimal counter.toNat,
      fun c member => isWordChar_of_isHexDigit (isHexDigit_of_mem_tokenDigits c member),
      List.forall_mem_nil _⟩
  intro c member
  rw [toList_ofParts] at member
  rcases Url.mem_intercalate member with rfl | ⟨piece, among, within⟩
  · exact .inr rfl
  · exact inside piece among c within

/-! ### Where a name is used -/

section Words

variable {word : String} (chars : ∀ c ∈ word.toList, IsWordChar c)

include chars

/-- A word of such characters is a plain segment. -/
theorem isPlainSegment_of_isWordChar : Url.IsPlainSegment word where
  notDot := by
    rintro rfl
    exact absurd (chars '.' (by decide)) (by decide)
  notDotDot := by
    rintro rfl
    exact absurd (chars '.' (by decide)) (by decide)
  counts c member := (plain_of_isWordChar (chars c member)).1

/-- It is its own component. -/
theorem componentOf_of_isWordChar (scheme : String) :
    Url.componentOf scheme word = word.toList := by
  refine Percent.encode_of_isClean fun c member => ?_
  obtain ⟨-, plain, special, -⟩ := plain_of_isWordChar (chars c member)
  unfold Url.componentSet
  split
  · exact special
  · exact plain

/-- It stands in its quotes as it is. -/
theorem stringChars_of_isWordChar :
    Json.stringChars word = '"' :: word.toList ++ ['"'] := by
  have each : word.toList.flatMap Json.escapedChar = word.toList.flatMap fun c => [c] :=
    List.flatMap_congr fun c member => (plain_of_isWordChar (chars c member)).2.2.2
  unfold Json.stringChars
  rw [each, List.flatMap_singleton']

end Words

section Use

variable {name : RoleName} (chars : ∀ c ∈ name.text.toList, IsWordChar c)

include chars

/-- **The place of a role ends with its name as it stands**, whatever the organisation is. -/
theorem exists_orgUrl?_placeOf {session : Session} (online : session.IsOnline) :
    ∃ url items, session.orgUrl? (Roles.placeOf name) = some url ∧
      url.path = .components (items ++ [name.text.toList]) := by
  have last : session.itemsOf (Roles.placeOf name) =
      Url.Path.push session.baseUrl.scheme (session.itemsOf [Roles.place]) name.text := rfl
  rw [Url.push_of_plain (Session.scheme_ne_file online) (isPlainSegment_of_isWordChar chars),
    componentOf_of_isWordChar chars] at last
  exact ⟨_, _, Session.orgUrl?_of_isOnline online _, congrArg Url.Path.components last⟩

/-- **What is sent to add a role** has its name as it stands. -/
theorem text_payload :
    (Roles.payload name).text = "\x7b\"name\":\"" ++ name.text ++ "\"\x7d" := by
  have key : Json.stringChars "name" = ['"', 'n', 'a', 'm', 'e', '"'] := by decide
  apply String.toList_inj.mp
  rw [Roles.payload, Json.Value.text, String.toList_ofList, Json.Value.chars, Json.fieldsChars,
    Json.Value.chars, key, stringChars_of_isWordChar chars]
  simp

end Use

/-! ### The law -/

/-- A name has four parts with underscores between them: `role`, the numbers of a process and of the
name, and eight lower-case hexadecimal digits. -/
structure HasParts (name : RoleName) (process counter : Nat) (token : List Char) : Prop where
  text : name.text = s!"role_{process}_{counter}_{String.ofList token}"
  eight : token.length = 8
  hex : ∀ c ∈ token, isHexDigit c = true

theorem hasParts_ofParts (process : Nat) (counter : UInt64) (token : UInt32) :
    (ofParts process counter token).HasParts process counter.toNat (tokenDigits token) where
  text := by
    have count : toString counter = toString counter.toNat := rfl
    unfold ofParts tokenDigits
    rw [count, String.ofList_toList]
    rfl
  eight := length_tokenDigits token
  hex := isHexDigit_of_mem_tokenDigits

namespace Source

/-- With fewer than 2^64 names, each has the counter that comes behind those in front of it. -/
theorem exists_of_getElem?_takeAll {process : Nat} {tokens : List UInt32}
    (few : tokens.length < UInt64.size) {index : Nat} {name : RoleName}
    (found : (takeAll ⟨process, 1⟩ tokens)[index]? = some name) :
    ∃ counter token, name = ofParts process counter token ∧ counter.toNat = index + 1 := by
  rw [getElem?_takeAll] at found
  obtain ⟨token, taken, rfl⟩ := Option.map_eq_some_iff.mp found
  obtain ⟨inside, -⟩ := List.getElem?_eq_some_iff.mp taken
  refine ⟨_, token, rfl, ?_⟩
  show (1 + UInt64.ofNat index).toNat = index + 1
  rw [UInt64.toNat_add, UInt64.toNat_ofNat_of_lt' (show index < UInt64.size from inside.trans few)]
  exact (Nat.mod_eq_of_lt (show 1 + index < UInt64.size by omega)).trans (Nat.add_comm 1 index)

/-- **Names do not repeat**: their counters are read back from them. -/
theorem nodup_takeAll {process : Nat} {tokens : List UInt32} (few : tokens.length < UInt64.size) :
    (takeAll ⟨process, 1⟩ tokens).Nodup := by
  refine List.nodup_iff_getElem?_ne_getElem?.mpr ?_
  intro first second before inside same
  obtain ⟨name, found⟩ : ∃ name, (takeAll ⟨process, 1⟩ tokens)[second]? = some name :=
    ⟨_, List.getElem?_eq_getElem inside⟩
  rw [found] at same
  obtain ⟨one, token, rfl, numberOne⟩ := exists_of_getElem?_takeAll few same
  obtain ⟨other, another, equal, numberOther⟩ := exists_of_getElem?_takeAll few found
  have parts := parts?_ofParts process one token
  rw [equal, parts?_ofParts] at parts
  have counters : other.toNat = one.toNat := congrArg (·.2.1) (Option.some.inj parts)
  omega

/-- **Names do not repeat and are safe.** As long as a process takes fewer than 2^64 names, no two
are the same, whatever their tokens are: each has the number of the process and a counter that is
larger with each name. All its characters are letters, digits and underscores; it is the last
component of its place on every accepted base URL, and what is sent to add it holds it, as it
stands. -/
theorem names_are_unique_and_safe (process : Nat) {tokens : List UInt32}
    (few : tokens.length < UInt64.size) :
    (takeAll { process } tokens).length = tokens.length ∧ (takeAll { process } tokens).Nodup ∧
    (∀ (index : Nat) (name : RoleName), (takeAll { process } tokens)[index]? = some name →
      ∃ token, name.HasParts process (index + 1) token) ∧
    ∀ name ∈ takeAll { process } tokens, (∀ c ∈ name.text.toList, IsWordChar c) ∧
      (∀ (session : Session) (text : String), Config.baseUrlOf text = .ok session.baseUrl →
        ∃ url items, session.orgUrl? (Roles.placeOf name) = some url ∧
          url.path = .components (items ++ [name.text.toList])) ∧
      (Http.Content.json (Roles.payload name)).text =
        "\x7b\"name\":\"" ++ name.text ++ "\"\x7d" := by
  refine ⟨length_takeAll _ tokens, nodup_takeAll few, ?_, ?_⟩
  · intro index name found
    obtain ⟨counter, token, rfl, number⟩ := exists_of_getElem?_takeAll few found
    exact ⟨_, number ▸ hasParts_ofParts process counter token⟩
  · intro name member
    obtain ⟨index, found⟩ := List.mem_iff_getElem?.mp member
    obtain ⟨counter, token, rfl, -⟩ := exists_of_getElem?_takeAll few found
    have chars : ∀ c ∈ (ofParts process counter token).text.toList, IsWordChar c :=
      isWordChar_of_mem_ofParts
    exact ⟨chars, fun session text accepted =>
      exists_orgUrl?_placeOf chars (Config.isOnline_of_baseUrlOf accepted), text_payload chars⟩

/-- Two names with the same token. -/
theorem names_are_unique_and_safe_pair :
    ⟨"role_7_1_000000ff"⟩ ∈ takeAll { process := 7 } [255, 255] ∧
      (takeAll { process := 7 } [255, 255]).Nodup ∧
      ∃ url items, sampleSession.orgUrl? ["roles", "role_7_1_000000ff"] = some url ∧
        url.path = .components (items ++ ["role_7_1_000000ff".toList]) := by
  obtain ⟨-, distinct, -, safe⟩ :=
    names_are_unique_and_safe 7 (show [255, 255].length < UInt64.size by decide)
  have first : ⟨"role_7_1_000000ff"⟩ ∈ takeAll { process := 7 } [255, 255] := by decide
  exact ⟨first, distinct, (safe _ first).2.1 _ _ baseUrlOf_sampleSession⟩

end Source

end RoleName

end LogProbe
