/-
**What encryption makes of a batch.** If it goes through, every text of the field is replaced by its
encrypted form and nothing else changes; the texts of the field can be decrypted again.

* `Json.Value.mapText`, `LogRecord.mapText`, `Batch.mapText` — texts replaced, and nothing else.
* `LogRecord.lookup_mapText` — what a record holds then.
* `Batch.encryptField_eq_ok` — the batch that was encrypted.
* `Batch.decryptField` — a batch with the texts of one field decrypted.
* `Batch.decryptField_mapText` — decryption gives the batch back, where every text of the field
  comes back from its encrypted form.
* `FieldEncryptor.encrypt_ne` — no text is its own encrypted form.
-/

import LogProbe.Proofs.Ingest.Batch
import LogProbe.Proofs.Ingest.Effect

namespace LogProbe

open Json

/-! ### Texts replaced -/

/-- A value with its text replaced; a value that is no text stays. -/
def Json.Value.mapText (f : String → String) : Value → Value
  | .string text => .string (f text)
  | value => value

/-- A record with the text of one field replaced. -/
def LogRecord.mapText (name : String) (f : String → String) (record : LogRecord) : LogRecord :=
  record.map fun field => if field.1 = name then (field.1, field.2.mapText f) else field

/-- A batch with the texts of one field replaced. -/
def Batch.mapText (name : String) (f : String → String) (batch : Batch) : Batch :=
  ⟨batch.records.map (LogRecord.mapText name f)⟩

section MapText

variable {name : String} {f : String → String}

theorem Json.Value.isNormal_mapText {depth : Nat} {value : Value} (normal : value.IsNormal depth) :
    (value.mapText f).IsNormal depth := by
  cases normal with
  | string text => exact .string (f text)
  | null => exact .null
  | boolean value => exact .boolean value
  | number normal => exact .number normal
  | array normal => exact .array normal
  | object ascends normal => exact .object ascends normal

theorem Json.Value.isWhole_mapText {value : Value} (whole : value.IsWhole) :
    (value.mapText f).IsWhole := by
  cases whole with
  | string text => exact .string (f text)
  | null => exact .null
  | boolean value => exact .boolean value
  | integer value => exact .integer value
  | array whole => exact .array whole
  | object whole => exact .object whole

namespace LogRecord

theorem mapText_cons (field : String × Value) (rest : LogRecord) :
    mapText name f (field :: rest) =
      (if field.1 = name then (field.1, field.2.mapText f) else field) :: mapText name f rest :=
  List.map_cons

/-- Every field of the new record is a field of the old one, perhaps with its text replaced. -/
theorem exists_of_mem_mapText {record : LogRecord} {field : String × Value}
    (member : field ∈ mapText name f record) :
    ∃ old ∈ record, field = old ∨ field = (old.1, old.2.mapText f) := by
  obtain ⟨old, inside, rfl⟩ := List.mem_map.mp member
  refine ⟨old, inside, ?_⟩
  split
  · exact .inr rfl
  · exact .inl rfl

theorem fst_mapped (field : String × Value) :
    (if field.1 = name then (field.1, field.2.mapText f) else field).1 = field.1 := by
  split
  · rfl
  · rfl

/-- The names of the fields stay. -/
theorem map_fst_mapText (record : LogRecord) :
    (mapText name f record).map Prod.fst = record.map Prod.fst := by
  unfold mapText
  rw [List.map_map]
  exact List.map_congr_left fun field _ => fst_mapped field

theorem ascends_mapText {record : LogRecord} (ascends : Ascends record) :
    Ascends (mapText name f record) := by
  have names : ((mapText name f record).map Prod.fst).Pairwise (· < ·) := by
    rw [map_fst_mapText]
    exact List.pairwise_map.mpr ascends
  exact List.pairwise_map.mp names

theorem isNormal_mapText {depth : Nat} {record : LogRecord}
    (normal : (Value.object record).IsNormal depth) :
    (Value.object (mapText name f record)).IsNormal depth := by
  cases normal with
  | object ascends normal =>
    refine .object (ascends_mapText ascends) fun field member => ?_
    obtain ⟨old, inside, rfl | rfl⟩ := exists_of_mem_mapText member
    · exact normal field inside
    · exact Value.isNormal_mapText (normal old inside)

theorem mapText_of_forall_ne {record : LogRecord} (others : ∀ field ∈ record, field.1 ≠ name) :
    mapText name f record = record :=
  (List.map_congr_left fun field member => if_neg (others field member)).trans (List.map_id _)

/-- Without the field nothing is replaced. -/
theorem mapText_of_lookup_eq_none {record : LogRecord} (missing : record.lookup name = none) :
    mapText name f record = record := by
  refine mapText_of_forall_ne fun field member same => ?_
  have differs := List.lookup_eq_none_iff.mp missing field member
  rw [same, bne_self_eq_false] at differs
  exact Bool.false_ne_true differs

/-- In a record whose names ascend, the field that is found is the only one that is replaced. -/
theorem mapText_eq_replaceField {record : LogRecord} (ascends : Ascends record) {value : Value}
    (found : record.lookup name = some value) :
    mapText name f record = Batch.replaceField name (value.mapText f) record := by
  induction record with
  | nil => exact nomatch found
  | cons field rest ih =>
    obtain ⟨other, old⟩ := field
    obtain ⟨above, ascends⟩ := List.pairwise_cons.mp ascends
    rw [lookup_cons] at found
    rw [mapText_cons, Batch.replaceField]
    by_cases same : name = other
    · have others : ∀ field ∈ rest, field.1 ≠ name := fun field member => by
        rw [same]
        exact (ne_of_lt (above field member)).symm
      rw [if_pos same] at found
      cases found
      rw [if_pos same, if_pos same.symm, mapText_of_forall_ne others]
    · rw [if_neg same] at found
      rw [if_neg same, if_neg (Ne.symm same), ih ascends found]

/-- To replace a field by what it holds changes nothing. -/
theorem replaceField_eq_self {record : LogRecord} {value : Value}
    (found : record.lookup name = some value) :
    Batch.replaceField name value record = record := by
  induction record with
  | nil => rfl
  | cons field rest ih =>
    obtain ⟨other, old⟩ := field
    rw [lookup_cons] at found
    rw [Batch.replaceField]
    by_cases same : name = other
    · rw [if_pos same] at found
      cases found
      rw [if_pos same]
    · rw [if_neg same] at found
      rw [if_neg same, ih found]

/-- A field that holds null is not replaced. -/
theorem mapText_of_lookup_eq_null {record : LogRecord} (ascends : Ascends record)
    (found : record.lookup name = some .null) : mapText name f record = record :=
  (mapText_eq_replaceField ascends found).trans (replaceField_eq_self found)

/-- **What a record holds with a text replaced**: the field that was named holds its text replaced,
or whatever it held if that is no text, or nothing if it was missing; every other field stays. -/
theorem lookup_mapText (record : LogRecord) (other : String) :
    List.lookup other (mapText name f record) =
      if other = name then (record.lookup other).map (Value.mapText f)
      else record.lookup other := by
  induction record with
  | nil =>
    split
    · rfl
    · rfl
  | cons field rest ih =>
    rw [mapText_cons, lookup_cons, lookup_cons, ih]
    by_cases own : other = field.1
    · by_cases same : field.1 = name
      · rw [if_pos same, if_pos own, if_pos own, if_pos (own.trans same)]
        rfl
      · rw [if_neg same, if_pos own, if_pos own, if_neg fun named => same (own.symm.trans named)]
    · rw [fst_mapped, if_neg own, if_neg own]

end LogRecord

namespace Batch

theorem isNormal_mapText {batch : Batch} (normal : batch.toValue.IsNormal depthLimit) :
    (batch.mapText name f).toValue.IsNormal depthLimit := by
  refine isNormal_toValue_iff.mpr fun record member => ?_
  obtain ⟨old, inside, rfl⟩ := List.mem_map.mp member
  exact LogRecord.isNormal_mapText (isNormal_toValue_iff.mp normal old inside)

theorem isWhole_mapText {batch : Batch} (whole : batch.toValue.IsWhole) :
    (batch.mapText name f).toValue.IsWhole := by
  refine isWhole_toValue_iff.mpr fun record member field inside => ?_
  obtain ⟨old, source, rfl⟩ := List.mem_map.mp member
  have all := isWhole_toValue_iff.mp whole old source
  obtain ⟨previous, origin, rfl | rfl⟩ := LogRecord.exists_of_mem_mapText inside
  · exact all field origin
  · exact Value.isWhole_mapText (all previous origin)

end Batch

end MapText

/-! ### Encryption -/

/-- **A record whose names ascend** has the text of its field replaced, and nothing else. -/
theorem LogRecord.sealed_eq_mapText {encryptor : FieldEncryptor} {name : String}
    {record : LogRecord} (ascends : Ascends record) (clear : record.IsClear name) :
    record.sealed encryptor name = record.mapText name encryptor.encrypt := by
  obtain missing | null | ⟨text, held⟩ := isClear_iff.mp clear
  · rw [mapText_of_lookup_eq_none missing]
    simp only [sealed, missing]
  · rw [mapText_of_lookup_eq_null ascends null]
    simp only [sealed, null]
  · rw [mapText_eq_replaceField ascends held]
    simp only [sealed, held]
    rfl

namespace Batch

/-- **A batch that was encrypted** has every text of the field replaced. -/
theorem encryptField_eq_ok {encryptor : FieldEncryptor} {name : String} {batch sent : Batch}
    {count : Nat}
    (normal : batch.toValue.IsNormal depthLimit)
    (done : batch.encryptField encryptor name = (.ok count, sent)) :
    sent = batch.mapText name encryptor.encrypt := by
  have ascends : ∀ record ∈ batch.records, Ascends record := fun record member => by
    cases isNormal_toValue_iff.mp normal record member with
    | object ascends _ => exact ascends
  obtain ⟨clear, records⟩ := eq_map_sealed_of_encryptField done
  have mapped : batch.records.map (LogRecord.sealed encryptor name) =
      batch.records.map (LogRecord.mapText name encryptor.encrypt) :=
    List.map_congr_left fun record member =>
      LogRecord.sealed_eq_mapText (ascends record member) (clear record member)
  exact congrArg Batch.mk (records.trans mapped)

end Batch

/-- **No text is its own encrypted form**, which is longer. -/
theorem FieldEncryptor.encrypt_ne (encryptor : FieldEncryptor) (text : String) :
    encryptor.encrypt text ≠ text := by
  intro same
  have size := congrArg (fun form : String => form.toList.length) same
  have bytes : text.toList.length ≤ (Utf8.bytesOf text).length :=
    Utf8.length_le_length_encode text.toList
  unfold FieldEncryptor.encrypt Cipher.encrypt at size
  split at size
  · simp only [Base64.length_encode, List.length_append, Siv.length_encrypt] at size
    omega
  · simp only [Base64.length_encode, List.length_drop, List.length_append, Siv.length_encrypt,
      headerLength] at size
    omega

/-! ### Decryption -/

/-- A field with its text decrypted, if it has the given name. -/
def FieldEncryptor.openField (encryptor : FieldEncryptor) (name : String) :
    String × Value → Except Cipher.Error (String × Value)
  | (other, .string text) =>
    if other = name then do
      let text ← encryptor.decrypt text
      .ok (other, .string text)
    else .ok (other, .string text)
  | field => .ok field

/-- A list comes back if each of its items does. -/
theorem mapM_map_eq_ok {ε α : Type} {undo : α → Except ε α} {f : α → α} {items : List α}
    (undone : ∀ item ∈ items, undo (f item) = .ok item) : (items.map f).mapM undo = .ok items := by
  induction items with
  | nil => rfl
  | cons item rest ih =>
    obtain ⟨first, others⟩ := List.forall_mem_cons.mp undone
    rw [List.map_cons, List.mapM_cons, first, ih others]
    rfl

namespace Batch

/-- A batch with the texts of one field decrypted, or why one of them cannot be. -/
def decryptField (batch : Batch) (encryptor : FieldEncryptor) (name : String) :
    Except Cipher.Error Batch := do
  let records ← batch.records.mapM fun record => record.mapM (encryptor.openField name)
  .ok ⟨records⟩

/-- **Decryption gives the batch back**, if every text of the field comes back from its encrypted
form. -/
theorem decryptField_mapText {batch : Batch} {encryptor : FieldEncryptor} {name : String}
    (comesBack : ∀ record ∈ batch.records, ∀ text, (name, .string text) ∈ record →
      encryptor.decrypt (encryptor.encrypt text) = .ok text) :
    (batch.mapText name encryptor.encrypt).decryptField encryptor name = .ok batch := by
  have undone : ∀ record ∈ batch.records,
      (LogRecord.mapText name encryptor.encrypt record).mapM (encryptor.openField name) =
        .ok record := by
    intro record inside
    refine mapM_map_eq_ok fun field member => ?_
    obtain ⟨other, value⟩ := field
    by_cases same : other = name
    · subst same
      rw [if_pos rfl]
      cases value with
      | string text =>
        simp only [Value.mapText, FieldEncryptor.openField, if_true,
          comesBack record inside text member]
        rfl
      | null | boolean | number | array | object => rfl
    · rw [if_neg same]
      cases value with
      | string text => simp only [FieldEncryptor.openField, if_neg same]
      | null | boolean | number | array | object => rfl
  unfold decryptField mapText
  simp only [mapM_map_eq_ok undone]
  rfl

end Batch

end LogProbe
