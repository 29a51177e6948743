/-
**Batches come back from their text.** The array that a batch is sent as holds the records and
nothing else, so that a batch that was read once and whose numbers are integers is read again from
the text it is sent as.

* `Batch.ofValue_eq_ok_iff` — the values that are batches, and of which.
* `Batch.isNormal_of_ofText` — what was read is normal.
* `Batch.ofText_text` — the round trip.
-/

import LogProbe.Ingest.Fixture
import LogProbe.Proofs.Config.BaseUrl
import LogProbe.Proofs.Json.RoundTrip

namespace LogProbe

open Json

namespace Batch

theorem recordsOf_map_object (index : Nat) (records : List LogRecord) :
    recordsOf index (records.map .object) = .ok records := by
  induction records generalizing index with
  | nil => rfl
  | cons record rest ih =>
    rw [List.map_cons, recordsOf, ih]
    rfl

/-- The items that are read as records are those records. -/
theorem eq_map_of_recordsOf {index : Nat} {items : List Value} {records : List LogRecord}
    (read : recordsOf index items = .ok records) : items = records.map .object := by
  induction items generalizing index records with
  | nil =>
    cases read
    rfl
  | cons item rest ih =>
    cases item with
    | object fields =>
      obtain ⟨others, readOthers, built⟩ := exists_of_bind_eq_ok read
      cases built
      rw [ih readOthers, List.map_cons]
    | null | boolean | number | string | array => exact nomatch read

/-- **A value is a batch exactly if it is the array of its records.** -/
theorem ofValue_eq_ok_iff {value : Value} {batch : Batch} :
    ofValue value = .ok batch ↔ value = batch.toValue := by
  constructor
  · intro read
    cases value with
    | array items =>
      obtain ⟨records, readItems, built⟩ := exists_of_bind_eq_ok read
      cases built
      rw [eq_map_of_recordsOf readItems]
      rfl
    | null | boolean | number | string | object => exact nomatch read
  · rintro rfl
    unfold toValue ofValue
    simp only [recordsOf_map_object]
    rfl

/-- The batch of a text is what the text means. -/
theorem ofText_eq_ok_iff {text : String} {batch : Batch} :
    ofText text = .ok batch ↔ Value.ofText? text = some batch.toValue := by
  unfold ofText
  cases Value.ofText? text with
  | none => exact ⟨(nomatch ·), (nomatch ·)⟩
  | some value => exact ofValue_eq_ok_iff.trans Option.some_inj.symm

/-- What was read is normal. -/
theorem isNormal_of_ofText {text : String} {batch : Batch} (read : ofText text = .ok batch) :
    batch.toValue.IsNormal depthLimit :=
  Value.isNormal_of_ofText? (ofText_eq_ok_iff.mp read)

theorem isNormal_of_load {fixture : Fixture} {content : Option Bytes} {batch : Batch}
    (loaded : fixture.load content = .ok batch) : batch.toValue.IsNormal depthLimit := by
  unfold Fixture.load at loaded
  split at loaded
  · exact nomatch loaded
  · split at loaded
    · exact nomatch loaded
    · rename_i read
      cases loaded
      exact isNormal_of_ofText read

/-- **A batch whose numbers are integers comes back from its text.** -/
theorem ofText_text {batch : Batch} (normal : batch.toValue.IsNormal depthLimit)
    (whole : batch.toValue.IsWhole) : ofText batch.text = .ok batch :=
  ofText_eq_ok_iff.mpr (Value.ofText?_text normal whole)

/-! ### The records of a normal batch -/

theorem isNormal_toValue_iff {batch : Batch} {depth : Nat} :
    batch.toValue.IsNormal (depth + 1) ↔
      ∀ record ∈ batch.records, (Value.object record).IsNormal depth := by
  constructor
  · intro normal
    cases normal with
    | array normal => exact fun record member => normal _ (List.mem_map_of_mem member)
  · intro normal
    refine .array fun item member => ?_
    obtain ⟨record, inside, rfl⟩ := List.mem_map.mp member
    exact normal record inside

theorem isWhole_toValue_iff {batch : Batch} :
    batch.toValue.IsWhole ↔ ∀ record ∈ batch.records, ∀ field ∈ record, field.2.IsWhole := by
  constructor
  · intro whole
    cases whole with
    | array whole =>
      intro record member
      cases whole _ (List.mem_map_of_mem member) with
      | object whole => exact whole
  · intro whole
    refine .array fun item member => ?_
    obtain ⟨record, inside, rfl⟩ := List.mem_map.mp member
    exact .object (whole record inside)

end Batch

end LogProbe
