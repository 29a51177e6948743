/-
**Segments of a path.** A segment that is no step and holds no tab or line break is one component
behind those that are there, and the component is decoded to it.

* `Url.IsPlainSegment` — the segments in question.
* `Url.decode_of_isDot`, `Url.decode_of_isDotDot` — what a component that is a step is decoded to.
* `Url.push_of_plain`, `Url.foldl_push_of_plain` — one segment and several.
* `Url.push_eq_append_iff` — no other segment is placed so.
-/

import LogProbe.Proofs.Url.Path

namespace LogProbe.Url

/-- A segment that stands for itself: neither `.` nor `..`, with no character that is ignored. -/
structure IsPlainSegment (segment : String) : Prop where
  notDot : segment ≠ "."
  notDotDot : segment ≠ ".."
  counts : ∀ c ∈ segment.toList, isIgnored c = false

theorem isPlainSegment_of_all {segment : String} (notDot : segment ≠ ".")
    (notDotDot : segment ≠ "..") (counts : segment.toList.all (fun c => !isIgnored c) = true) :
    IsPlainSegment segment := by
  refine ⟨notDot, notDotDot, fun c member => ?_⟩
  simpa using List.all_eq_true.mp counts c member

/-- The component that a segment becomes. -/
def componentOf (scheme : String) (segment : String) : List Char :=
  Percent.encode (componentSet scheme) segment.toList

theorem componentSet_percent (scheme : String) : componentSet scheme '%' = true := by
  unfold componentSet
  split
  · decide
  · decide

/-- **A component is decoded to its segment.** -/
theorem textOf?_componentOf (scheme segment : String) :
    Percent.textOf? (componentOf scheme segment) = some segment :=
  Percent.textOf?_encode (componentSet_percent scheme) segment

/-! ### Components that are steps -/

/-- A character that is in lower case as it is, or becomes a small letter. -/
theorem eq_or_of_toLower {c d : Char} (lower : c.toLower = d) :
    c = d ∨ (c.toNat + 32 = d.toNat ∧ 97 ≤ d.toNat ∧ d.toNat ≤ 122) := by
  unfold Char.toLower at lower
  split at lower
  · rename_i upper
    have low : 65 ≤ c.toNat := UInt32.le_iff_toNat_le.mp upper.1
    have high : c.toNat ≤ 90 := UInt32.le_iff_toNat_le.mp upper.2
    have number : d.toNat = c.toNat + 32 := by
      rw [← lower]
      show (c.val.toNat + 32) % 2 ^ 32 = c.toNat + 32
      exact Nat.mod_eq_of_lt (by show c.toNat + 32 < _; omega)
    omega
  · exact .inl lower

theorem eq_of_toLower {c d : Char} (lower : c.toLower = d) (letter : d.toNat < 97) : c = d := by
  rcases eq_or_of_toLower lower with same | ⟨-, low, -⟩
  · exact same
  · omega

theorem eq_or_eq_of_toLower_e {c : Char} (lower : c.toLower = 'e') : c = 'e' ∨ c = 'E' := by
  rcases eq_or_of_toLower lower with same | ⟨number, -⟩
  · exact .inl same
  · right
    have value : c.toNat = 'E'.toNat := by
      show c.toNat = 69
      have : 'e'.toNat = 101 := rfl
      omega
    rw [← Char.ofNat_toNat c, value, Char.ofNat_toNat]

/-- The three characters of an encoded dot. -/
theorem encodedDot_of_map {component rest : List Char}
    (lower : component.map Char.toLower = '%' :: '2' :: 'e' :: rest) :
    ∃ tail, tail.map Char.toLower = rest ∧
      Percent.decode component = 0x2E :: Percent.decode tail := by
  obtain ⟨a, afterA, rfl, lowerA, lowerRest⟩ := List.map_eq_cons_iff.mp lower
  obtain ⟨b, afterB, rfl, lowerB, lowerRest⟩ := List.map_eq_cons_iff.mp lowerRest
  obtain ⟨c, tail, rfl, lowerC, lowerTail⟩ := List.map_eq_cons_iff.mp lowerRest
  cases eq_of_toLower lowerA (by decide)
  cases eq_of_toLower lowerB (by decide)
  refine ⟨tail, lowerTail, ?_⟩
  rcases eq_or_eq_of_toLower_e lowerC with rfl | rfl
  · rfl
  · rfl

/-- The character of a plain dot. -/
theorem plainDot_of_map {component rest : List Char}
    (lower : component.map Char.toLower = '.' :: rest) :
    ∃ tail, tail.map Char.toLower = rest ∧
      Percent.decode component = 0x2E :: Percent.decode tail := by
  obtain ⟨c, tail, rfl, lowerC, lowerTail⟩ := List.map_eq_cons_iff.mp lower
  cases eq_of_toLower lowerC (by decide)
  exact ⟨tail, lowerTail, Percent.decode_cons (by decide) tail⟩

/-- A way to write one dot is decoded to it. -/
theorem decode_of_isDot {component : List Char} (dot : Path.isDot component = true) :
    Percent.decode component = [0x2E] := by
  have forms : component.map Char.toLower = ['.'] ∨
      component.map Char.toLower = ['%', '2', 'e'] := by
    simpa [Path.isDot] using dot
  have step : ∃ tail : List Char, tail.map Char.toLower = [] ∧
      Percent.decode component = 0x2E :: Percent.decode tail := by
    rcases forms with plain | encoded
    · exact plainDot_of_map plain
    · exact encodedDot_of_map encoded
  obtain ⟨tail, nothing, decoded⟩ := step
  rw [decoded, List.map_eq_nil_iff.mp nothing, Percent.decode]

/-- A way to write two dots is decoded to them. -/
theorem decode_of_isDotDot {component : List Char} (dots : Path.isDotDot component = true) :
    Percent.decode component = [0x2E, 0x2E] := by
  have forms : component.map Char.toLower = ['.', '.'] ∨
      component.map Char.toLower = ['.', '%', '2', 'e'] ∨
      component.map Char.toLower = ['%', '2', 'e', '.'] ∨
      component.map Char.toLower = ['%', '2', 'e', '%', '2', 'e'] := by
    simpa [Path.isDotDot] using dots
  have step : ∃ tail : List Char, (tail.map Char.toLower = ['.'] ∨
      tail.map Char.toLower = ['%', '2', 'e']) ∧
        Percent.decode component = 0x2E :: Percent.decode tail := by
    rcases forms with first | first | first | first
    · obtain ⟨tail, second, decoded⟩ := plainDot_of_map first
      exact ⟨tail, .inl second, decoded⟩
    · obtain ⟨tail, second, decoded⟩ := plainDot_of_map first
      exact ⟨tail, .inr second, decoded⟩
    · obtain ⟨tail, second, decoded⟩ := encodedDot_of_map first
      exact ⟨tail, .inl second, decoded⟩
    · obtain ⟨tail, second, decoded⟩ := encodedDot_of_map first
      exact ⟨tail, .inr second, decoded⟩
  obtain ⟨tail, second, decoded⟩ := step
  have dot : Path.isDot tail = true := by
    rcases second with plain | encoded
    · simp [Path.isDot, plain]
    · simp [Path.isDot, encoded]
  rw [decoded, decode_of_isDot dot]

/-! ### Segments that are pushed -/

variable {scheme : String}

theorem significant_eq_self {segment : String} (plain : IsPlainSegment segment) :
    significant segment.toList = segment.toList := by
  unfold significant
  rw [List.filter_eq_self]
  intro c member
  rw [plain.counts c member]
  rfl

/-- **The component of a plain segment is no step.** It is decoded to the segment. -/
theorem finish_componentOf {segment : String} (plain : IsPlainSegment segment)
    (items : List (List Char)) :
    Path.finish items (componentOf scheme segment) = items ++ [componentOf scheme segment] := by
  have decoded : Percent.decode (componentOf scheme segment) = Utf8.encode segment.toList :=
    Percent.decode_encode (componentSet_percent scheme) segment.toList
  have noDots : ¬ Path.isDotDot (componentOf scheme segment) = true := by
    intro dots
    rw [decode_of_isDotDot dots] at decoded
    have same : "..".toList = segment.toList := Utf8.encode_injective decoded
    exact plain.notDotDot (String.toList_inj.mp same).symm
  have noDot : ¬ Path.isDot (componentOf scheme segment) = true := by
    intro dot
    rw [decode_of_isDot dot] at decoded
    have same : ".".toList = segment.toList := Utf8.encode_injective decoded
    exact plain.notDot (String.toList_inj.mp same).symm
  exact Path.finish_of_isNoStep ⟨Bool.eq_false_iff.mpr noDots, Bool.eq_false_iff.mpr noDot⟩ items

/-- **A plain segment is one component more**; only a lone slash gives way to it. -/
theorem push_of_plain (notFile : scheme ≠ "file") {segment : String}
    (plain : IsPlainSegment segment) (items : List (List Char)) :
    Path.push scheme items segment =
      (if items = [[]] then [] else items) ++ [componentOf scheme segment] := by
  unfold Path.push
  rw [if_neg (not_or.mpr ⟨plain.notDot, plain.notDotDot⟩)]
  simp only [significant_eq_self plain, if_neg notFile]
  exact finish_componentOf plain _

/-- What follows a path where it is finished is its last component, or nothing behind steps. -/
theorem eq_or_eq_nil_of_finish {items : List (List Char)} {component last : List Char}
    (finished : Path.finish items component = items ++ [last]) : last = [] ∨ last = component := by
  unfold Path.finish at finished
  have ends := congrArg List.getLast? finished
  rw [List.getLast?_concat] at ends
  split at ends
  · rw [List.getLast?_concat] at ends
    exact .inl (Option.some.inj ends).symm
  split at ends
  · rw [List.getLast?_concat] at ends
    exact .inl (Option.some.inj ends).symm
  · rw [List.getLast?_concat] at ends
    exact .inr (Option.some.inj ends).symm

/-- **Only a plain segment is one component more that is decoded to it.** The steps `.` and `..` are
left out, and a segment with tabs or line breaks loses them, or becomes a step without them. -/
theorem push_eq_append_iff (notFile : scheme ≠ "file") {items : List (List Char)}
    (more : items ≠ [[]]) (segment : String) :
    (∃ component, Path.push scheme items segment = items ++ [component] ∧
      Percent.textOf? component = some segment) ↔ IsPlainSegment segment := by
  constructor
  · rintro ⟨component, pushed, read⟩
    unfold Path.push at pushed
    split at pushed
    · have longer := congrArg List.length pushed
      rw [List.length_append, List.length_singleton] at longer
      omega
    · rename_i noStep
      obtain ⟨notDot, notDotDot⟩ := not_or.mp noStep
      dsimp only at pushed
      refine ⟨notDot, notDotDot, ?_⟩
      rcases eq_or_eq_nil_of_finish pushed with rfl | rfl
      · have blank : segment = "" := (Option.some.inj read).symm
        rw [blank]
        exact List.forall_mem_nil _
      · have written := Percent.textOf?_encode (componentSet_percent scheme)
          (String.ofList (significant segment.toList))
        rw [String.toList_ofList, read] at written
        have same : significant segment.toList = segment.toList := by
          rw [← String.toList_ofList (l := significant segment.toList), ← Option.some.inj written]
        intro c member
        rw [← same] at member
        simpa using (List.mem_filter.mp member).2
  · intro plain
    refine ⟨componentOf scheme segment, ?_, textOf?_componentOf scheme segment⟩
    rw [push_of_plain notFile plain, if_neg more]

/-- Plain segments are as many components more. -/
theorem foldl_push_of_plain (notFile : scheme ≠ "file") {segments : List String}
    (plain : ∀ segment ∈ segments, IsPlainSegment segment) {items : List (List Char)}
    (some : items ≠ []) (more : items ≠ [[]]) :
    segments.foldl (Path.push scheme) items = items ++ segments.map (componentOf scheme) := by
  induction segments generalizing items with
  | nil => rw [List.foldl_nil, List.map_nil, List.append_nil]
  | cons segment rest ih =>
    have longer : items ++ [componentOf scheme segment] ≠ [[]] := by
      intro lone
      have one : (items ++ [componentOf scheme segment]).length = 1 := by rw [lone]; rfl
      rw [List.length_append, List.length_singleton] at one
      exact some (List.length_eq_zero_iff.mp (by omega))
    rw [List.foldl_cons, push_of_plain notFile (plain segment List.mem_cons_self), if_neg more,
      ih (fun other member => plain other (List.mem_cons_of_mem segment member)) (by simp) longer,
      List.map_cons, List.append_assoc, List.singleton_append]

end LogProbe.Url
