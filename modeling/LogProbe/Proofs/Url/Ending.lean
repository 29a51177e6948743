/-
**URLs whose texts end with a slash.** A slash at the end of a text ends the URL that is read from
it as well, wherever it comes to stand: in the path, the query or the fragment.

* `Url.EndsWithSlash` — texts that end with a slash.
* `Url.IsAuthorityOf.suffix` — what follows an authority is the end of the text.
* `Url.endsWithSlash_readPath` — a path that ends with a slash.
* `Url.endsWithSlash_chars` — a URL that does.
-/

import LogProbe.Proofs.Url.Canonical

namespace LogProbe.Url

/-- A text that ends with a slash. -/
def EndsWithSlash (text : List Char) : Prop := ['/'] <:+ text

theorem endsWithSlash_iff {text : List Char} :
    EndsWithSlash text ↔ text.getLast? = some '/' := by
  rw [List.getLast?_eq_some_iff]
  exact ⟨fun ⟨front, split⟩ => ⟨front, split.symm⟩, fun ⟨front, split⟩ => ⟨front, split.symm⟩⟩

theorem EndsWithSlash.append {back : List Char} (ends : EndsWithSlash back) (front : List Char) :
    EndsWithSlash (front ++ back) :=
  List.IsSuffix.trans ends (List.suffix_append front back)

/-- What is left of the end of a text ends like it. -/
theorem EndsWithSlash.of_suffix {whole text : List Char} (ends : EndsWithSlash whole)
    (suffix : text <:+ whole) (some : text ≠ []) : EndsWithSlash text := by
  rcases List.suffix_or_suffix_of_suffix ends suffix with shorter | longer
  · exact shorter
  · rcases List.suffix_cons_iff.mp longer with rfl | nothing
    · exact List.suffix_rfl
    · exact absurd (List.suffix_nil.mp nothing) some

theorem EndsWithSlash.tail {c : Char} {rest : List Char} (ends : EndsWithSlash (c :: rest))
    (other : c ≠ '/') : EndsWithSlash rest := by
  rcases List.suffix_cons_iff.mp ends with whole | inside
  · exact absurd (List.cons.inj whole).1.symm other
  · exact inside

theorem endsWithSlash_encode {set : Percent.Set} (plain : set '/' = false) {text : List Char}
    (ends : EndsWithSlash text) : EndsWithSlash (Percent.encode set text) := by
  obtain ⟨front, rfl⟩ := ends
  refine ⟨Percent.encode set front, ?_⟩
  simp [Percent.encode, Percent.encodeChar, plain]

theorem endsWithSlash_significant {text : List Char} (ends : EndsWithSlash text) :
    EndsWithSlash (significant text) := by
  have kept := List.IsSuffix.filter (fun c => !isIgnored c) ends
  exact kept

/-- Nothing behind a slash at the end is trimmed off. -/
theorem endsWithSlash_trimmed {text : List Char} (ends : EndsWithSlash text) :
    EndsWithSlash (trimmed text) := by
  have some : text.dropWhile isControlOrSpace ≠ [] := by
    intro nothing
    have slash := List.dropWhile_eq_nil_iff.mp nothing '/' (ends.subset List.mem_cons_self)
    cases slash
  obtain ⟨front, split⟩ := ends.of_suffix (List.dropWhile_suffix _) some
  have visible : ¬ isControlOrSpace '/' = true := by decide
  refine ⟨front, ?_⟩
  unfold trimmed
  rw [← split, List.reverse_append, List.reverse_singleton, List.singleton_append,
    List.dropWhile_cons_of_neg visible, List.reverse_cons, List.reverse_reverse]

/-! ### What follows an authority -/

theorem suffix_of_splitUserinfo {text rest : List Char} {userinfo : List Char × Option (List Char)}
    (read : splitUserinfo true text = .ok (userinfo, rest)) : rest <:+ text := by
  unfold splitUserinfo at read
  split at read
  · cases read
    exact List.suffix_rfl
  · rename_i front found
    split at read
    · rename_i c behind dropped
      split at read
      · cases read
      · cases read
        rw [← dropped]
        exact List.drop_suffix _ text
    · cases read
      exact List.drop_suffix _ text

theorem suffix_of_readHostText {bracketed : Bool} {text hostText rest : List Char}
    (read : readHostText true bracketed text = (hostText, rest)) : rest <:+ text := by
  induction text generalizing bracketed hostText with
  | nil =>
    cases read
    exact List.suffix_rfl
  | cons c text ih =>
    rw [readHostText] at read
    split at read
    · cases read
      exact List.suffix_rfl
    · cases read
      exact (ih rfl).trans (List.suffix_cons c text)

theorem IsPortOf.suffix {scheme : String} {text rest : List Char} {port : Option Nat}
    (ported : IsPortOf scheme text port rest) : rest <:+ text := by
  cases ported with
  | given read => exact (List.dropWhile_suffix _).trans (List.suffix_cons ':' _)
  | absent => exact List.suffix_rfl

/-- **What follows an authority is the end of the text.** -/
theorem IsAuthorityOf.suffix {scheme : String} {text rest : List Char} {authority : Authority}
    (addressed : IsAuthorityOf scheme text authority rest) : rest <:+ text := by
  cases addressed with
  | intro userinfo bounded given hosted ported =>
    exact (ported.suffix.trans (suffix_of_readHostText bounded)).trans
      (suffix_of_splitUserinfo userinfo)

/-- What follows an authority ends with a slash, unless nothing does. -/
theorem endsWithSlash_rest {text rest : List Char} {scheme : String} {authority : Authority}
    (addressed : IsAuthorityOf scheme ((significant (behindScheme text)).dropWhile (isSlash true))
      authority rest) (ends : EndsWithSlash text) : rest = [] ∨ EndsWithSlash rest := by
  by_cases nothing : rest = []
  · exact .inl nothing
  refine .inr ?_
  have inside : rest <:+ significant (behindScheme text) :=
    addressed.suffix.trans (List.dropWhile_suffix _)
  have some : behindScheme text ≠ [] := by
    intro empty
    rw [empty] at inside
    exact nothing (List.suffix_nil.mp inside)
  have behind : behindScheme text <:+ trimmed text :=
    (List.drop_suffix 1 _).trans (List.dropWhile_suffix _)
  have kept := (endsWithSlash_trimmed ends).of_suffix behind some
  exact (endsWithSlash_significant kept).of_suffix inside nothing

/-! ### Paths, queries and fragments -/

/-- Behind a last slash, and where nothing is written, stands an empty component. -/
theorem exists_splitComponents_eq {text : List Char} (ends : text = [] ∨ EndsWithSlash text) :
    ∃ front, splitComponents true text = front ++ [[]] := by
  rcases ends with rfl | ⟨front, rfl⟩
  · exact ⟨[], rfl⟩
  · refine ⟨(front.splitOnP (isSlash true)).map (Percent.encode Percent.path), ?_⟩
    unfold splitComponents
    rw [List.splitOnP_append_cons front [] rfl, List.map_append]
    rfl

/-- **A path that ends with a slash**, also where nothing is written. -/
theorem endsWithSlash_readPath {scheme : String} (special : isSpecial scheme = true)
    {text : List Char} (ends : text = [] ∨ EndsWithSlash text) :
    EndsWithSlash (readPath scheme text).text := by
  have closed (items : List (List Char)) :
      EndsWithSlash (Path.components (items ++ [[]])).text := by
    rw [Path.text_append]
    exact EndsWithSlash.append List.suffix_rfl _
  have resolved {body : List Char} (ends : body = [] ∨ EndsWithSlash body) :
      EndsWithSlash (Path.components (Path.resolve [] (splitComponents true body))).text := by
    obtain ⟨front, split⟩ := exists_splitComponents_eq ends
    obtain ⟨before, finished⟩ := Path.exists_resolve_eq_finish [] front []
    rw [split, finished, Path.finish_of_isNoStep Path.isNoStep_nil]
    exact closed before
  unfold readPath
  simp only [special, if_true]
  rcases ends with rfl | ends
  · exact closed []
  cases text with
  | nil => exact closed []
  | cons c rest =>
    dsimp only
    split
    · refine resolved ?_
      by_cases nothing : rest = []
      · exact .inl nothing
      · exact .inr (ends.of_suffix (List.suffix_cons c rest) nothing)
    · exact resolved (.inr ends)

/-- **A query or fragment that ends with a slash.** -/
theorem endsWithSlash_suffix {url : Url} {mark : Char} {rest : List Char}
    (marked : mark = '?' ∨ mark = '#') (ends : EndsWithSlash (mark :: rest))
    (query : url.query =
      (splitSuffix (mark :: rest)).1.map (Percent.encode Percent.specialQuery))
    (fragment : url.fragment =
      (splitSuffix (mark :: rest)).2.map (Percent.encode Percent.fragment)) :
    EndsWithSlash url.suffix := by
  have closed {set : Percent.Set} (plain : set '/' = false) {mark : Char} (other : mark ≠ '/')
      {text : List Char} (ends : EndsWithSlash (mark :: text)) :
      EndsWithSlash (mark :: Percent.encode set text) :=
    EndsWithSlash.append (endsWithSlash_encode plain (ends.tail other)) [mark]
  unfold suffix
  rcases marked with rfl | rfl
  · by_cases hash : '#' ∈ rest
    · obtain ⟨front, behind, rfl, free⟩ := List.eq_append_cons_of_mem hash
      have last : EndsWithSlash ('#' :: behind) :=
        ends.of_suffix (List.suffix_append ('?' :: front) _) (List.cons_ne_nil _ _)
      obtain ⟨-, split⟩ := span_append (bne_of_not_mem free) (c := '#') rfl behind
      simp only [splitSuffix, split, Option.map_some] at fragment
      rw [fragment]
      exact EndsWithSlash.append (closed (by decide) (by decide) last) _
    · have none : rest.dropWhile (· != '#') = [] :=
        List.dropWhile_eq_nil_iff.mpr (bne_of_not_mem hash)
      simp only [splitSuffix, none, Option.map_some, Option.map_none] at query fragment
      rw [query, fragment, List.append_nil]
      exact closed (by decide) (by decide) ends
  · simp only [splitSuffix] at fragment
    rw [fragment]
    exact EndsWithSlash.append (closed (by decide) (by decide) ends) _

/-- What the path, the query and the fragment are read from: the end of the text. -/
theorem exists_rest_of_isReadFrom {text : List Char} {url : Url} (read : IsReadFrom text url)
    (ends : EndsWithSlash text) :
    ∃ rest, (rest = [] ∨ EndsWithSlash rest) ∧ url.path = readPath url.scheme (splitFront rest).1 ∧
      url.query =
        (splitSuffix (splitFront rest).2).1.map (Percent.encode Percent.specialQuery) ∧
      url.fragment = (splitSuffix (splitFront rest).2).2.map (Percent.encode Percent.fragment) := by
  cases read with
  | @intro scheme authority rest http named addressed =>
    exact ⟨rest, endsWithSlash_rest addressed ends, rfl, rfl, rfl⟩

/-- **A URL ends with a slash** if the text does that it is read from. -/
theorem endsWithSlash_chars {text : List Char} {url : Url} (read : IsReadFrom text url)
    (ends : EndsWithSlash text) : EndsWithSlash url.chars := by
  obtain ⟨special, -⟩ := isSpecial_of_isHttp (isCanonical_of_isReadFrom read).http
  obtain ⟨rest, closed, path, query, fragment⟩ := exists_rest_of_isReadFrom read ends
  have whole : (splitFront rest).1 ++ (splitFront rest).2 = rest :=
    List.takeWhile_append_dropWhile
  unfold chars
  cases behind : (splitFront rest).2 with
  | nil =>
    rw [behind] at whole query fragment
    rw [List.append_nil] at whole
    have nothing : url.suffix = [] := by
      unfold suffix
      rw [query, fragment]
      rfl
    rw [nothing, List.append_nil, path, whole]
    exact EndsWithSlash.append (endsWithSlash_readPath special closed) _
  | cons mark more =>
    have some : rest ≠ [] := by
      rintro rfl
      cases behind
    have last : EndsWithSlash (mark :: more) :=
      (closed.resolve_left some).of_suffix (behind ▸ List.dropWhile_suffix _) (List.cons_ne_nil _ _)
    have marked : mark = '?' ∨ mark = '#' := by
      have first := List.head?_dropWhile_not (fun c => c != '?' && c != '#') rest
      have begins : rest.dropWhile (fun c => c != '?' && c != '#') = mark :: more := behind
      rw [begins] at first
      simpa [or_iff_not_imp_left] using first
    rw [behind] at query fragment
    exact EndsWithSlash.append (endsWithSlash_suffix marked last query fragment) _

/-- **A text without the marks of a query and a fragment** has neither. -/
theorem nothing_follows_path {text : List Char} {url : Url} (read : IsReadFrom text url)
    (noQuery : '?' ∉ text) (noFragment : '#' ∉ text) :
    url.query = none ∧ url.fragment = none := by
  cases read with
  | @intro scheme authority rest http named addressed =>
    have nothing : (splitFront rest).2 = [] := by
      refine List.dropWhile_eq_nil_iff.mpr fun c member => ?_
      have inside : c ∈ text := mem_of_mem_addressed (addressed.suffix.subset member)
      exact (Bool.and_eq_true _ _).mpr
        ⟨bne_of_not_mem noQuery c inside, bne_of_not_mem noFragment c inside⟩
    rw [nothing]
    exact ⟨rfl, rfl⟩

end LogProbe.Url
