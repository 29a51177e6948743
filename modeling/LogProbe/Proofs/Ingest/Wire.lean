/-
**Batches survive the wire.** A text is a batch exactly if it is JSON for an array of objects; of
any other array, the first item that is no object is named. A batch that was read and holds no
numbers but integers is read again from the text it is sent as, and so is every batch that
encryption makes of it, however many fields are encrypted and whether each of them goes through or not.

* `Json.IsJson` — the grammar and the meaning of JSON together.
* `Batch.recordsOf_of_forall₂` — the items of an array, up to the first that is no object.
* `Batch.IsReadable` — the batches that are read again, and `Batch.IsReadable.encryptField`, what
  one call preserves.
* `Batch.survives_the_wire` — the law.
-/

import LogProbe.Proofs.Ingest.Secrecy
import LogProbe.Proofs.Json.Meaning
import LogProbe.Proofs.Json.Reader

namespace LogProbe

namespace Json

/-- A byte string is JSON for a document: it spells the document, and the document means
something. -/
structure IsJson (document : Document) (bytes : Bytes) : Prop where
  spells : SpellsText document bytes
  meant : document.IsMeant depthLimit

/-- Whether a document is an object. -/
def Document.isObject : Document → Bool
  | .object _ => true
  | _ => false

/-- Items and their values, one by one. -/
theorem forall₂_of_valuesWithin? {depth : Nat} {items : List Document} {values : List Value}
    (read : valuesWithin? depth items = some values) :
    List.Forall₂ (fun item value => valueWithin? depth item = some value) items values := by
  induction items generalizing values with
  | nil =>
    rw [valuesWithin?] at read
    cases read
    exact .nil
  | cons item rest ih =>
    rw [valuesWithin?] at read
    obtain ⟨value, first, read⟩ := Option.bind_eq_some_iff.mp read
    obtain ⟨others, readOthers, made⟩ := Option.bind_eq_some_iff.mp read
    cases made
    exact .cons first (ih readOthers)

/-- An object means an object, and nothing else does. -/
theorem isObject_iff {depth : Nat} {document : Document} {value : Value}
    (read : valueWithin? depth document = some value) :
    document.isObject = true ↔ ∃ fields, value = .object fields := by
  constructor
  · intro object
    cases document with
    | object =>
      cases depth with
      | zero =>
        rw [valueWithin?] at read
        cases read
      | succ depth =>
        rw [valueWithin?] at read
        obtain ⟨_, -, made⟩ := Option.bind_eq_some_iff.mp read
        cases made
        exact ⟨_, rfl⟩
    | null | boolean | number | string | array => cases object
  · rintro ⟨fields, rfl⟩
    cases document with
    | object => rfl
    | null | boolean =>
      rw [valueWithin?] at read
      cases read
    | number | string =>
      rw [valueWithin?] at read
      obtain ⟨_, -, made⟩ := Option.bind_eq_some_iff.mp read
      cases made
    | array =>
      cases depth with
      | zero =>
        rw [valueWithin?] at read
        cases read
      | succ depth =>
        rw [valueWithin?] at read
        obtain ⟨_, -, made⟩ := Option.bind_eq_some_iff.mp read
        cases made

end Json

open Json

namespace Batch

/-! ### Reading -/

theorem recordsOf_cons_object (index : Nat) (fields : LogRecord) (rest : List Value) :
    recordsOf index (.object fields :: rest) =
      (recordsOf (index + 1) rest).map (fields :: ·) := by
  rw [recordsOf]
  cases recordsOf (index + 1) rest <;> rfl

/-- **The items of an array**: all of them are objects and their fields are the records, or the
first that is none is named with its value. -/
theorem recordsOf_of_forall₂ {depth : Nat} {items : List Document} {values : List Value}
    (each : List.Forall₂ (fun item value => valueWithin? depth item = some value) items values)
    (index : Nat) :
    ((∀ item ∈ items, item.isObject = true) ∧ ∃ records, recordsOf index values = .ok records) ∨
      ∃ before other after value, items = before ++ other :: after ∧
        (∀ item ∈ before, item.isObject = true) ∧ other.isObject = false ∧
        valueWithin? depth other = some value ∧
        recordsOf index values = .error (.notObject (index + before.length) value) := by
  induction each generalizing index with
  | nil => exact .inl ⟨List.forall_mem_nil _, [], rfl⟩
  | @cons item value items values first _ ih =>
    by_cases object : item.isObject = true
    · obtain ⟨fields, rfl⟩ := (isObject_iff first).mp object
      rw [recordsOf_cons_object]
      obtain ⟨all, records, read⟩ | ⟨before, other, after, value, rfl, all, noObject, meant, read⟩ :=
        ih (index + 1)
      · exact .inl ⟨List.forall_mem_cons.mpr ⟨object, all⟩, fields :: records, by rw [read]; rfl⟩
      · refine .inr ⟨item :: before, other, after, value, rfl,
          List.forall_mem_cons.mpr ⟨object, all⟩, noObject, meant, ?_⟩
        rw [read, List.length_cons, Nat.add_comm before.length, ← Nat.add_assoc]
        rfl
    · refine .inr ⟨[], item, items, value, rfl, List.forall_mem_nil _, Bool.not_eq_true _ ▸ object,
        first, ?_⟩
      cases value with
      | object fields => exact absurd ((isObject_iff first).mpr ⟨fields, rfl⟩) object
      | null | boolean | number | string | array => rfl

/-- What a text is read as that is JSON for an array. -/
theorem exists_values_of_isJson {items : List Document} {text : String}
    (json : IsJson (.array items) (Utf8.bytesOf text)) :
    ∃ values, List.Forall₂ (fun item value => valueWithin? (depthLimit - 1) item = some value)
        items values ∧ ofText text = (recordsOf 0 values).map Batch.mk := by
  obtain ⟨value, meant⟩ := exists_valueWithin?_iff.mpr json.meant
  have read : Value.ofText? text = some value := by
    unfold Value.ofText? Value.ofBytes?
    rw [Document.read?_eq_some_iff.mpr json.spells]
    exact meant
  have depth : depthLimit = depthLimit - 1 + 1 := rfl
  rw [depth, valueWithin?] at meant
  obtain ⟨values, found, made⟩ := Option.bind_eq_some_iff.mp meant
  cases made
  refine ⟨values, forall₂_of_valuesWithin? found, ?_⟩
  unfold ofText
  rw [read]
  show (recordsOf 0 values).bind (fun records => .ok (Batch.mk records)) = _
  cases recordsOf 0 values <;> rfl

/-- A text that is a batch is JSON for an array. -/
theorem exists_isJson_of_ofText {text : String} {batch : Batch} (read : ofText text = .ok batch) :
    ∃ items, IsJson (.array items) (Utf8.bytesOf text) := by
  obtain ⟨document, found, meant⟩ := Option.bind_eq_some_iff.mp (ofText_eq_ok_iff.mp read)
  have json : IsJson document (Utf8.bytesOf text) :=
    ⟨Document.read?_eq_some_iff.mp found, exists_valueWithin?_iff.mp ⟨_, meant⟩⟩
  cases document with
  | array items => exact ⟨items, json⟩
  | null | boolean =>
    rw [Document.value?, valueWithin?] at meant
    cases meant
  | number | string | object =>
    obtain ⟨_, -, made⟩ := Option.bind_eq_some_iff.mp meant
    cases made

/-! ### Encryption -/

/-- The batches that are read again from their text. -/
structure IsReadable (batch : Batch) : Prop where
  normal : batch.toValue.IsNormal depthLimit
  whole : batch.toValue.IsWhole

/-- A record that encryption leaves is one that was there, or such a record with its text
encrypted. -/
theorem exists_of_mem_encryptField {batch : Batch} {encryptor : FieldEncryptor} {name : String}
    {later : LogRecord} (member : later ∈ (batch.encryptField encryptor name).2.records) :
    ∃ record ∈ batch.records, later = record ∨
      record.IsClear name ∧ later = record.sealed encryptor name := by
  obtain clear | ⟨before, blocked, after, value, split, clear, refused⟩ :=
    forall_isClear_or_exists_first name batch.records
  · rw [encryptField_of_isClear clear] at member
    obtain ⟨record, inside, rfl⟩ := List.mem_map.mp member
    exact ⟨record, inside, .inr ⟨clear record inside, rfl⟩⟩
  · rw [encryptField_of_isBlockedBy split clear refused] at member
    rw [split]
    rcases List.mem_append.mp member with sealed | kept
    · obtain ⟨record, inside, rfl⟩ := List.mem_map.mp sealed
      exact ⟨record, List.mem_append_left _ inside, .inr ⟨clear record inside, rfl⟩⟩
    · exact ⟨later, List.mem_append_right _ kept, .inl rfl⟩

/-- **One call keeps a batch readable**, whatever comes of it. -/
theorem IsReadable.encryptField {batch : Batch} (readable : batch.IsReadable)
    (encryptor : FieldEncryptor) (name : String) :
    (batch.encryptField encryptor name).2.IsReadable := by
  have normal := isNormal_toValue_iff.mp readable.normal
  have whole := isWhole_toValue_iff.mp readable.whole
  -- as the names of a record ascend, at most one of its texts is replaced
  have sealed : ∀ later ∈ (batch.encryptField encryptor name).2.records, ∃ record ∈ batch.records,
      later = record ∨ later = record.mapText name encryptor.encrypt := by
    intro later member
    obtain ⟨record, inside, same | ⟨clear, rfl⟩⟩ := exists_of_mem_encryptField member
    · exact ⟨record, inside, .inl same⟩
    · cases normal record inside with
      | object ascends =>
        exact ⟨record, inside, .inr (LogRecord.sealed_eq_mapText ascends clear)⟩
  constructor
  · refine isNormal_toValue_iff.mpr fun later member => ?_
    obtain ⟨record, inside, rfl | rfl⟩ := sealed later member
    · exact normal later inside
    · exact LogRecord.isNormal_mapText (normal record inside)
  · refine isWhole_toValue_iff.mpr fun later member field stands => ?_
    obtain ⟨record, inside, rfl | rfl⟩ := sealed later member
    · exact whole later inside field stands
    · obtain ⟨previous, origin, rfl | rfl⟩ := LogRecord.exists_of_mem_mapText stands
      · exact whole record inside field origin
      · exact Value.isWhole_mapText (whole record inside previous origin)

/-- The batch after several calls that each encrypt a field as far as it goes, whatever comes of
them. -/
def afterCalls (batch : Batch) : List (FieldEncryptor × String) → Batch
  | [] => batch
  | call :: rest => (batch.encryptField call.1 call.2).2.afterCalls rest

/-- **Any calls keep a batch readable**, by induction on them. -/
theorem IsReadable.afterCalls {batch : Batch} (readable : batch.IsReadable)
    (calls : List (FieldEncryptor × String)) : (batch.afterCalls calls).IsReadable := by
  induction calls generalizing batch with
  | nil => exact readable
  | cons call rest ih => exact ih (readable.encryptField call.1 call.2)

/-! ### The law -/

/-- **Batches survive the wire.** A text is accepted exactly if it is JSON for an array of objects.
If it is JSON for another array, the first item that is no object is named by its index and shown.
If the numbers of the text are integers, so are those of the batch; and then the batch comes back
from the text it is sent as, and so does every batch that any calls of encryption leave of it,
whether they go through or not. -/
theorem survives_the_wire (text : String) :
    ((∃ batch, ofText text = .ok batch) ↔
      ∃ items, IsJson (.array items) (Utf8.bytesOf text) ∧
        ∀ item ∈ items, item.isObject = true) ∧
    (∀ items, IsJson (.array items) (Utf8.bytesOf text) →
      (¬ ∀ item ∈ items, item.isObject = true) →
      ∃ before other after value, items = before ++ other :: after ∧
        (∀ item ∈ before, item.isObject = true) ∧ other.isObject = false ∧
        valueWithin? (depthLimit - 1) other = some value ∧
        ofText text = .error (.notObject before.length value) ∧
        (Error.notObject before.length value).message? =
          some s!"Record {before.length} is not a JSON object: {value.text}") ∧
    ∀ batch, ofText text = .ok batch →
      (∀ document, IsJson document (Utf8.bytesOf text) → document.IsWhole →
        batch.toValue.IsWhole) ∧
      (batch.toValue.IsWhole → ofText batch.text = .ok batch ∧
        ∀ calls, ofText (batch.afterCalls calls).text = .ok (batch.afterCalls calls)) := by
  refine ⟨⟨?_, ?_⟩, fun items json other => ?_, fun batch read => ⟨?_, fun whole => ?_⟩⟩
  · rintro ⟨batch, read⟩
    obtain ⟨items, json⟩ := exists_isJson_of_ofText read
    obtain ⟨values, each, outcome⟩ := exists_values_of_isJson json
    obtain ⟨all, -⟩ | ⟨before, other, after, value, -, -, -, -, refused⟩ :=
      recordsOf_of_forall₂ each 0
    · exact ⟨items, json, all⟩
    · rw [outcome, refused] at read
      cases read
  · rintro ⟨items, json, all⟩
    obtain ⟨values, each, outcome⟩ := exists_values_of_isJson json
    obtain ⟨-, records, read⟩ | ⟨before, other, after, value, rfl, -, noObject, -, -⟩ :=
      recordsOf_of_forall₂ each 0
    · exact ⟨⟨records⟩, by rw [outcome, read]; rfl⟩
    · have object := all other (List.mem_append_right _ List.mem_cons_self)
      exact absurd object (noObject ▸ Bool.false_ne_true)
  · obtain ⟨values, each, outcome⟩ := exists_values_of_isJson json
    obtain ⟨all, -⟩ | ⟨before, first, after, value, split, objects, noObject, meant, refused⟩ :=
      recordsOf_of_forall₂ each 0
    · exact absurd all other
    · refine ⟨before, first, after, value, split, objects, noObject, meant, ?_, rfl⟩
      rw [outcome, refused, Nat.zero_add]
      rfl
  · intro document json whole
    obtain ⟨found, spelled, meant⟩ := Option.bind_eq_some_iff.mp (ofText_eq_ok_iff.mp read)
    cases spelled.symm.trans (Document.read?_eq_some_iff.mpr json.spells)
    exact isWhole_of_valueWithin? whole meant
  · have readable : batch.IsReadable := ⟨isNormal_of_ofText read, whole⟩
    refine ⟨ofText_text readable.normal whole, fun calls => ?_⟩
    have later := readable.afterCalls calls
    exact ofText_text later.normal later.whole

/-- A call that fails at a number, and one that goes through. -/
theorem survives_the_wire_sample :
    ∃ encryptor batch,
      FieldEncryptor.ofKeyset FieldEncryptor.sharedHeaderKeyset .tink = .ok encryptor ∧
      ofText batch.text = .ok batch ∧
      (batch.encryptField encryptor "n").1 = .error (.notText 0 "n" (.natural 1)) ∧
      (batch.encryptField encryptor "log").1 = .ok 1 ∧
      let later := batch.afterCalls [(encryptor, "n"), (encryptor, "log")]
      ofText later.text = .ok later := by
  obtain ⟨encryptor, accepted⟩ := FieldEncryptor.exists_ofKeyset_sharedHeader
  have read : ofText Ingest.sampleFixture.text = .ok Ingest.sampleFixture :=
    ofText_text Ingest.isNormal_sampleFixture Ingest.isWhole_sampleFixture
  obtain ⟨-, comesBack⟩ := (survives_the_wire Ingest.sampleFixture.text).2.2 _ read
  exact ⟨encryptor, Ingest.sampleFixture, accepted, read, rfl, rfl,
    (comesBack Ingest.isWhole_sampleFixture).2 _⟩

end Batch

end LogProbe
