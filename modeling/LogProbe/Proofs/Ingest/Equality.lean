/-
**Equal texts, equal ciphertexts.** Encryption is a function without associated data, so that equal
texts have one encrypted form, and every layer of it can be undone with the primary key alone, so
that different texts have different ones. Encrypted records can be searched for a text.

* `FieldEncryptor.encrypt_injective` — two texts do not have the same encrypted form.
* `LogRecord.text?`, `Batch.textAt?` — the text that a field holds.
* `Batch.textAt?_of_encryptField` — the texts of a batch that was encrypted.
* `Batch.encryptField_keeps_equality` — the law.
-/

import LogProbe.Proofs.Ingest.Effect

namespace LogProbe

open Json

/-! ### Encrypted forms -/

/-- **Two texts do not have the same encrypted form.** The header is that of the primary key for
both, and what follows it, or what is left without it, is opened under the primary key; no other key
is asked. -/
theorem FieldEncryptor.encrypt_injective {keyset : Keyset} {variant : Variant}
    {encryptor : FieldEncryptor} (accepted : ofKeyset keyset variant = .ok encryptor)
    {first second : String} (same : encryptor.encrypt first = encryptor.encrypt second) :
    first = second := by
  cases variant with
  | simple =>
    rw [encrypt_simple accepted rfl, encrypt_simple accepted rfl] at same
    exact Utf8.bytesOf_injective (Siv.encrypt_injective (Base64.encode_injective same))
  | tink =>
    rw [encrypt_tink accepted rfl, encrypt_tink accepted rfl] at same
    have behind := List.append_cancel_left (Base64.encode_injective same)
    exact Utf8.bytesOf_injective (Siv.encrypt_injective behind)

/-! ### Texts of a field -/

/-- The text that a field holds, if it holds one. -/
def LogRecord.text? (name : String) (record : LogRecord) : Option String :=
  match record.lookup name with
  | some (.string text) => some text
  | _ => none

/-- The text that a field holds in the record with the given number. -/
def Batch.textAt? (name : String) (batch : Batch) (index : Nat) : Option String :=
  batch.records[index]?.bind (LogRecord.text? name)

theorem LogRecord.text?_sealed (encryptor : FieldEncryptor) (name : String) (record : LogRecord) :
    (record.sealed encryptor name).text? name = (record.text? name).map encryptor.encrypt := by
  unfold LogRecord.sealed
  split
  · rename_i text held
    obtain ⟨before, after, rfl, others, replaced⟩ := exists_replaceField_eq held
    simp only [text?, held, replaced, lookup_behind others, Option.map_some]
  · rename_i textless
    have nothing : record.text? name = none := by
      unfold text?
      split
      · rename_i text held
        exact absurd held (textless text)
      · rfl
    rw [nothing, Option.map_none]

namespace Batch

/-- **The texts of a batch that was encrypted** are the encrypted forms of the texts that were
there, record by record. -/
theorem textAt?_of_encryptField {batch sent : Batch} {encryptor : FieldEncryptor} {name : String}
    {count : Nat} (done : batch.encryptField encryptor name = (.ok count, sent)) (index : Nat) :
    sent.textAt? name index = (batch.textAt? name index).map encryptor.encrypt := by
  unfold textAt?
  rw [(eq_map_sealed_of_encryptField done).2, List.getElem?_map]
  cases batch.records[index]? with
  | none => rfl
  | some record => exact LogRecord.text?_sealed encryptor name record

/-- **Equal texts, equal ciphertexts.** Under an accepted keyset, whatever its other keys are, two
encrypted forms are equal exactly if their texts are. In a batch that was encrypted, two records
that held texts hold texts again, which are equal exactly if they were before. -/
theorem encryptField_keeps_equality {keyset : Keyset} {variant : Variant}
    {encryptor : FieldEncryptor}
    (accepted : FieldEncryptor.ofKeyset keyset variant = .ok encryptor) :
    (∀ first second : String,
      encryptor.encrypt first = encryptor.encrypt second ↔ first = second) ∧
    ∀ (batch sent : Batch) (name : String) (count : Nat),
      batch.encryptField encryptor name = (.ok count, sent) →
      ∀ i j first second, batch.textAt? name i = some first → batch.textAt? name j = some second →
        ∃ firstSealed secondSealed, sent.textAt? name i = some firstSealed ∧
          sent.textAt? name j = some secondSealed ∧
          (firstSealed = secondSealed ↔ first = second) := by
  have settles (first second : String) :
      encryptor.encrypt first = encryptor.encrypt second ↔ first = second :=
    ⟨FieldEncryptor.encrypt_injective accepted, congrArg encryptor.encrypt⟩
  refine ⟨settles, fun batch sent name count done i j first second held other => ?_⟩
  refine ⟨encryptor.encrypt first, encryptor.encrypt second, ?_, ?_, settles first second⟩
  · rw [textAt?_of_encryptField done, held, Option.map_some]
  · rw [textAt?_of_encryptField done, other, Option.map_some]

/-- Three records of which the first and the last hold the same text. -/
def repeatingBatch : Batch :=
  ⟨[[("log", .string "a")], [("log", .string "b")], [("level", .null), ("log", .string "a")]]⟩

/-- The first and the last of them hold the same text afterwards, and the second another. -/
theorem encryptField_keeps_equality_repeating :
    ∃ encryptor sent first second,
      FieldEncryptor.ofKeyset FieldEncryptor.sharedHeaderKeyset .tink = .ok encryptor ∧
      repeatingBatch.encryptField encryptor "log" = (.ok 3, sent) ∧
      sent.textAt? "log" 0 = some first ∧ sent.textAt? "log" 1 = some second ∧
      sent.textAt? "log" 2 = some first ∧ first ≠ second := by
  obtain ⟨encryptor, accepted⟩ := FieldEncryptor.exists_ofKeyset_sharedHeader
  have keeps := (encryptField_keeps_equality accepted).2 repeatingBatch _ "log" 3 rfl
  obtain ⟨first, last, heldFirst, heldLast, same⟩ := keeps 0 2 "a" "a" rfl rfl
  obtain ⟨again, second, heldAgain, heldSecond, differ⟩ := keeps 0 1 "a" "b" rfl rfl
  cases same.mpr rfl
  cases heldFirst.symm.trans heldAgain
  exact ⟨encryptor, _, first, second, accepted, rfl, heldFirst, heldSecond, heldLast,
    fun equal => absurd (differ.mp equal) (by decide)⟩

end Batch

end LogProbe
