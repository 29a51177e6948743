/-
**Paths as texts.** No component of a path that was read holds a slash, so the text of the path says
where each of them begins. Read again, it has the same components, since none of them is a step.

* `Url.IsSlashFree` — lists of components without slashes.
* `Url.Path.splitOnP_text`, `Url.Path.text_injective` — the components come back from the text.
* `Url.Path.withoutFinalSlash_text`, `Url.Path.popIfEmpty_append` — what one slash less at the end
  means for the components.
* `Url.Path.mem_resolve`, `Url.Path.resolve_of_isNoStep` — what steps leave.
* `Url.isSettled_readPath`, `Url.readPath_text` — the paths that are read, and that they come back
  from their texts.
-/

import LogProbe.Proofs.Url.Percent
import LogProbe.Url.Parse

namespace LogProbe.Url

/-- No component holds a slash. -/
def IsSlashFree (items : List (List Char)) : Prop := ∀ item ∈ items, '/' ∉ item

theorem isSlashFree_append {items others : List (List Char)} :
    IsSlashFree (items ++ others) ↔ IsSlashFree items ∧ IsSlashFree others :=
  List.forall_mem_append

theorem isSlashFree_singleton {item : List Char} : IsSlashFree [item] ↔ '/' ∉ item :=
  List.forall_mem_singleton

/-! ### Components of a text -/

/-- What stands in front of the first separator belongs to the first piece. -/
theorem splitOnP_append_of_forall {p : Char → Bool} {front : List Char}
    (solid : ∀ c ∈ front, p c = false) (rest : List Char) :
    (front ++ rest).splitOnP p = (rest.splitOnP p).modifyHead (front ++ ·) := by
  induction front with
  | nil =>
    rw [List.nil_append]
    cases rest.splitOnP p <;> rfl
  | cons c front ih =>
    have inside := ih fun other member => solid other (List.mem_cons_of_mem c member)
    rw [List.cons_append, List.splitOnP_cons_eq_if_modifyHead, solid c List.mem_cons_self, inside]
    cases rest.splitOnP p <;> rfl

@[simp] theorem Path.text_nil : (Path.components []).text = [] := rfl

theorem Path.text_cons (item : List Char) (items : List (List Char)) :
    (Path.components (item :: items)).text = '/' :: (item ++ (Path.components items).text) :=
  List.flatMap_cons

theorem Path.text_append (items others : List (List Char)) :
    (Path.components (items ++ others)).text =
      (Path.components items).text ++ (Path.components others).text :=
  List.flatMap_append

/-- **The components of a path come back from its text**, behind the nothing in front of it. -/
theorem Path.splitOnP_text {p : Char → Bool} (slash : p '/' = true) {items : List (List Char)}
    (solid : ∀ item ∈ items, ∀ c ∈ item, p c = false) :
    (Path.components items).text.splitOnP p = [] :: items := by
  induction items with
  | nil => rfl
  | cons item items ih =>
    obtain ⟨first, others⟩ := List.forall_mem_cons.mp solid
    rw [Path.text_cons, List.splitOnP_cons_eq_if_modifyHead, if_pos slash,
      splitOnP_append_of_forall first, ih others, List.modifyHead_cons, List.append_nil]

theorem IsSlashFree.solid {items : List (List Char)} (slashFree : IsSlashFree items) :
    ∀ item ∈ items, ∀ c ∈ item, (c == '/') = false := by
  intro item among c member
  rw [beq_eq_false_iff_ne]
  rintro rfl
  exact slashFree item among member

/-- **Paths with the same text have the same components.** -/
theorem Path.text_injective {items others : List (List Char)} (slashFree : IsSlashFree items)
    (otherSlashFree : IsSlashFree others)
    (same : (Path.components items).text = (Path.components others).text) : items = others := by
  have pieces := Path.splitOnP_text (by decide) slashFree.solid
  rw [same, Path.splitOnP_text (by decide) otherSlashFree.solid] at pieces
  exact (List.cons.inj pieces).2.symm

/-- A text without one slash at its end. -/
def Path.withoutFinalSlash (text : List Char) : List Char :=
  if text.getLast? = some '/' then text.dropLast else text

/-- **A path without one slash at its end** is the path without its last component, if that is
empty, and otherwise the path itself. -/
theorem Path.withoutFinalSlash_text {items : List (List Char)} {last : List Char}
    (slashFree : '/' ∉ last) :
    Path.withoutFinalSlash (Path.components (items ++ [last])).text =
      if last = [] then (Path.components items).text
      else (Path.components (items ++ [last])).text := by
  have text : (Path.components (items ++ [last])).text =
      (Path.components items).text ++ '/' :: last := by
    rw [Path.text_append, Path.text_cons, Path.text_nil, List.append_nil]
  rw [text]
  unfold Path.withoutFinalSlash
  by_cases blank : last = []
  · subst blank
    rw [List.getLast?_concat, if_pos rfl, if_pos rfl, List.dropLast_concat]
  · have ends : ((Path.components items).text ++ '/' :: last).getLast? ≠ some '/' := by
      rw [List.getLast?_append, List.getLast?_cons, Option.some_or]
      intro slash
      cases found : last.getLast? with
      | none => exact blank (List.getLast?_eq_none_iff.mp found)
      | some c =>
        rw [found] at slash
        cases slash
        exact slashFree (List.mem_of_getLast? found)
    rw [if_neg ends, if_neg blank]

/-- An empty last component gives way, if it is not the only one. -/
theorem Path.popIfEmpty_append {items : List (List Char)} (some : items ≠ []) (last : List Char) :
    Path.popIfEmpty (items ++ [last]) = if last = [] then items else items ++ [last] := by
  have long : ∃ first second rest, items ++ [last] = first :: second :: rest := by
    match items, some with
    | [first], _ => exact ⟨first, last, [], rfl⟩
    | first :: second :: rest, _ => exact ⟨first, second, rest ++ [last], rfl⟩
  obtain ⟨first, second, rest, found⟩ := long
  have popped : Path.popIfEmpty (items ++ [last]) =
      if (items ++ [last]).getLast? = Option.some [] then (items ++ [last]).dropLast
      else items ++ [last] := by
    rw [found]
    rfl
  rw [popped, List.getLast?_concat, List.dropLast_concat]
  simp only [Option.some.injEq]

theorem isSlashFree_popIfEmpty {items : List (List Char)} (slashFree : IsSlashFree items) :
    IsSlashFree (Path.popIfEmpty items) := by
  unfold Path.popIfEmpty
  split
  · split
    · exact fun item member => slashFree item (List.dropLast_subset _ member)
    · exact slashFree
  · exact slashFree

/-! ### Steps -/

namespace Path

/-- A component that is no step. -/
def IsNoStep (component : List Char) : Prop :=
  isDotDot component = false ∧ isDot component = false

theorem isNoStep_nil : IsNoStep [] := ⟨by decide, by decide⟩

theorem descend_of_isNoStep {component : List Char} (noStep : IsNoStep component)
    (items : List (List Char)) : descend items component = items ++ [component] := by
  unfold descend
  rw [noStep.1, noStep.2, if_neg Bool.false_ne_true, if_neg Bool.false_ne_true]

theorem finish_of_isNoStep {component : List Char} (noStep : IsNoStep component)
    (items : List (List Char)) : finish items component = items ++ [component] := by
  unfold finish
  rw [noStep.1, noStep.2, if_neg Bool.false_ne_true, if_neg Bool.false_ne_true]

theorem finish_ne_nil (items : List (List Char)) (component : List Char) :
    finish items component ≠ [] := by
  unfold finish
  split
  · simp
  split
  · simp
  · simp

theorem ascend_subset (items : List (List Char)) : ascend items ⊆ items := by
  unfold ascend
  split
  · split
    · exact List.Subset.refl items
    · exact List.dropLast_subset items
  · exact List.nil_subset items

theorem mem_descend {items : List (List Char)} {component item : List Char}
    (member : item ∈ descend items component) :
    item ∈ items ∨ item = component ∧ IsNoStep item := by
  unfold descend at member
  split at member
  · exact .inl (ascend_subset items member)
  rename_i notDotDot
  split at member
  · exact .inl member
  rename_i notDot
  rcases List.mem_append.mp member with before | last
  · exact .inl before
  · cases List.mem_singleton.mp last
    exact .inr ⟨rfl, Bool.eq_false_iff.mpr notDotDot, Bool.eq_false_iff.mpr notDot⟩

/-- A path is finished like any other, and perhaps closed by an empty component. -/
theorem finish_subset (items : List (List Char)) (component : List Char) :
    finish items component ⊆ descend items component ++ [[]] := by
  unfold finish descend
  split
  · exact List.Subset.refl _
  split
  · exact List.Subset.refl _
  · exact List.subset_append_left _ _

theorem mem_finish {items : List (List Char)} {component item : List Char}
    (member : item ∈ finish items component) :
    item ∈ items ∨ (item = [] ∨ item = component) ∧ IsNoStep item := by
  rcases List.mem_append.mp (finish_subset items component member) with inside | last
  · rcases mem_descend inside with before | ⟨same, noStep⟩
    · exact .inl before
    · exact .inr ⟨.inr same, noStep⟩
  · cases List.mem_singleton.mp last
    exact .inr ⟨.inl rfl, isNoStep_nil⟩

/-- **What steps leave**: components that are no steps, and perhaps an empty one at the end. -/
theorem mem_resolve {items components : List (List Char)} {item : List Char}
    (member : item ∈ resolve items components) :
    item ∈ items ∨ (item = [] ∨ item ∈ components) ∧ IsNoStep item := by
  induction items, components using resolve.induct with
  | case1 items => exact .inl member
  | case2 items last =>
    rcases mem_finish member with before | ⟨rfl | rfl, noStep⟩
    · exact .inl before
    · exact .inr ⟨.inl rfl, noStep⟩
    · exact .inr ⟨.inr List.mem_cons_self, noStep⟩
  | case3 items component next rest ih =>
    rcases ih member with before | ⟨rfl | among, noStep⟩
    · rcases mem_descend before with before | ⟨rfl, noStep⟩
      · exact .inl before
      · exact .inr ⟨.inr List.mem_cons_self, noStep⟩
    · exact .inr ⟨.inl rfl, noStep⟩
    · exact .inr ⟨.inr (List.mem_cons_of_mem component among), noStep⟩

/-- **Components without steps are left as they are.** -/
theorem resolve_of_isNoStep {components : List (List Char)}
    (noSteps : ∀ component ∈ components, IsNoStep component) (items : List (List Char)) :
    resolve items components = items ++ components := by
  induction items, components using resolve.induct with
  | case1 items => rw [resolve, List.append_nil]
  | case2 items last => exact finish_of_isNoStep (noSteps last List.mem_cons_self) items
  | case3 items component next rest ih =>
    obtain ⟨first, others⟩ := List.forall_mem_cons.mp noSteps
    rw [resolve, ih others, descend_of_isNoStep first, List.append_assoc]
    rfl

/-- A path ends with its last component or where that leads. -/
theorem exists_resolve_eq_finish (items components : List (List Char)) (last : List Char) :
    ∃ front, resolve items (components ++ [last]) = finish front last := by
  induction components generalizing items with
  | nil => exact ⟨items, rfl⟩
  | cons component rest ih =>
    cases rest with
    | nil => exact ⟨descend items component, rfl⟩
    | cons next rest => exact ih (descend items component)

end Path

/-! ### Paths that were read -/

/-- The pieces of a text hold no separator. -/
theorem eq_false_of_mem_splitOnP {p : Char → Bool} {text piece : List Char}
    (member : piece ∈ text.splitOnP p) : ∀ c ∈ piece, p c = false := by
  induction text generalizing piece with
  | nil =>
    cases List.mem_singleton.mp member
    exact List.forall_mem_nil _
  | cons first rest ih =>
    rw [List.splitOnP_cons_eq_if_modifyHead] at member
    split at member
    · rcases List.mem_cons.mp member with rfl | inside
      · exact List.forall_mem_nil _
      · exact ih inside
    · rename_i solid
      cases pieces : rest.splitOnP p with
      | nil => exact absurd pieces (List.splitOnP_ne_nil p rest)
      | cons head tail =>
        rw [pieces] at ih member
        rw [List.modifyHead_cons] at member
        rcases List.mem_cons.mp member with rfl | inside
        · exact List.forall_mem_cons.mpr
            ⟨Bool.not_eq_true _ ▸ solid, ih List.mem_cons_self⟩
        · exact ih (List.mem_cons_of_mem head inside)

/-- A component that is read as it stands: nothing in it is encoded or divides it, and it is no
step. -/
structure IsSettled (component : List Char) : Prop where
  clean : Percent.IsClean Percent.path component
  solid : ∀ c ∈ component, isSlash true c = false
  noStep : Path.IsNoStep component

theorem isSettled_nil : IsSettled [] :=
  ⟨List.forall_mem_nil _, List.forall_mem_nil _, Path.isNoStep_nil⟩

theorem IsSettled.isSlashFree {items : List (List Char)}
    (settled : ∀ item ∈ items, IsSettled item) : IsSlashFree items := fun item among slash =>
  Bool.noConfusion ((settled item among).solid '/' slash)

/-- **The components between the slashes of a text hold none**, encoded or not. -/
theorem solid_splitComponents {text item : List Char} (among : item ∈ splitComponents true text) :
    ∀ c ∈ item, isSlash true c = false := by
  intro c member
  obtain ⟨piece, split, rfl⟩ := List.mem_map.mp among
  rcases Percent.mem_encode member with ⟨-, inside⟩ | rfl | isDigit
  · exact eq_false_of_mem_splitOnP split c inside
  · rfl
  · exact Percent.forall_isDigit (P := fun c => isSlash true c = false) (by decide) isDigit

/-- Between slashes there is something, if only the empty text. -/
theorem exists_splitComponents_eq_concat (special : Bool) (text : List Char) :
    ∃ front last, splitComponents special text = front ++ [last] := by
  rcases List.eq_nil_or_concat (splitComponents special text) with none | ⟨front, last, found⟩
  · exact absurd (List.map_eq_nil_iff.mp none) (List.splitOnP_ne_nil _ text)
  · exact ⟨front, last, found.trans (List.concat_eq_append ..)⟩

/-- **The path of a special scheme** has components, each of which is read as it stands. -/
theorem isSettled_readPath {scheme : String} (special : isSpecial scheme = true)
    (text : List Char) :
    ∃ items, readPath scheme text = .components items ∧ items ≠ [] ∧
      ∀ item ∈ items, IsSettled item := by
  unfold readPath
  simp only [special, if_true]
  split
  · exact ⟨_, rfl, List.cons_ne_nil _ _, List.forall_mem_singleton.mpr isSettled_nil⟩
  · refine ⟨_, rfl, ?_, fun item member => ?_⟩
    · obtain ⟨front, last, ends⟩ := exists_splitComponents_eq_concat true _
      obtain ⟨before, resolved⟩ := Path.exists_resolve_eq_finish [] front last
      rw [ends, resolved]
      exact Path.finish_ne_nil before last
    · rcases Path.mem_resolve member with nothing | ⟨rfl | among, noStep⟩
      · cases nothing
      · exact isSettled_nil
      · refine ⟨?_, solid_splitComponents among, noStep⟩
        obtain ⟨piece, -, rfl⟩ := List.mem_map.mp among
        exact Percent.isClean_encode (by simp) piece

/-- **A path is read from its text.** -/
theorem readPath_text {scheme : String} (special : isSpecial scheme = true)
    {items : List (List Char)} (some : items ≠ []) (settled : ∀ item ∈ items, IsSettled item) :
    readPath scheme (Path.components items).text = .components items := by
  obtain ⟨first, rest, rfl⟩ := List.exists_cons_of_ne_nil some
  have slash : isSlash true '/' = true := rfl
  have pieces := Path.splitOnP_text slash fun item among => (settled item among).solid
  rw [Path.text_cons, List.splitOnP_cons_eq_if_modifyHead, if_pos slash] at pieces
  have encoded : (first :: rest).map (Percent.encode Percent.path) = (first :: rest).map id :=
    List.map_congr_left fun item among => Percent.encode_of_isClean (settled item among).clean
  have components : splitComponents true (first ++ (Path.components rest).text) =
      first :: rest := by
    rw [splitComponents, (List.cons.inj pieces).2, encoded, List.map_id]
  rw [Path.text_cons]
  unfold readPath
  simp only [special, if_pos slash]
  rw [components, Path.resolve_of_isNoStep fun item among => (settled item among).noStep]
  rfl

end LogProbe.Url
