/-
**Spellings of a message.** A field is spelled by its key and its content, in which every number may
have any of its spellings. A row of such fields, whatever their numbers are, is read back field by
field.

* `Wire.Payload.Spelling`, `Wire.Field.Spelling` — the spellings of what a field carries and of the
  field, for the four forms that hold their own content.
* `Wire.IsMessageOf` — the spellings of a row of fields.
* `Wire.readFields?_of_isMessageOf` — a row of fields is read from every spelling of it.
* `Wire.isMessageOf_writeFields` — what is written is a spelling.
-/

import LogProbe.Proofs.Wire.Varint
import LogProbe.Wire.Field
import Mathlib.Data.List.Forall2

namespace LogProbe.Wire

/-! ### Keys -/

/-- A spelling of a key, which has 32 bits and a number that is not zero. -/
structure IsKey (number : Nat) (form : Form) (bytes : Bytes) : Prop where
  spelled : IsVarint (8 * number + form.code) bytes
  positive : 0 < number
  fits : 8 * number + form.code < UInt32.size

theorem Form.code_lt (form : Form) : form.code < 8 := by
  cases form <;> decide

theorem Form.ofCode?_code (form : Form) : ofCode? form.code = some form := by
  cases form <;> rfl

theorem readKey?_of_isKey {number : Nat} {form : Form} {bytes : Bytes}
    (key : IsKey number form bytes) (rest : Bytes) :
    readKey? (bytes ++ rest) = some ((number, form), rest) := by
  have bound := form.code_lt
  have code : (8 * number + form.code) % 8 = form.code := by omega
  have own : (8 * number + form.code) / 8 = number := by omega
  unfold readKey?
  rw [readVarint?_of_isVarint key.spelled]
  simp only [Option.bind_eq_bind, Option.bind_some, code, own, form.ofCode?_code]
  rw [if_pos ⟨key.fits, key.positive⟩]

/-- A key that is written is spelled. -/
theorem isKey_writeKey {number : Nat} {form : Form} (positive : 0 < number)
    (fits : 8 * number + form.code < UInt32.size) : IsKey number form (writeKey number form) :=
  ⟨isVarint_writeVarint (Nat.lt_trans fits (by decide)), positive, fits⟩

/-! ### Fields -/

/-- The spellings of what a field carries, with the form that its key announces. -/
inductive Payload.Spelling : Payload → Form → Bytes → Prop where
  | varint {value : Nat} {bytes : Bytes} (spelled : IsVarint value bytes) :
      Spelling (.varint value) .varint bytes
  | fixed64 {bytes : Bytes} (size : bytes.length = 8) : Spelling (.fixed64 bytes) .fixed64 bytes
  | delimited {content size : Bytes} (spelled : IsVarint content.length size) :
      Spelling (.delimited content) .delimited (size ++ content)
  | fixed32 {bytes : Bytes} (size : bytes.length = 4) : Spelling (.fixed32 bytes) .fixed32 bytes

/-- The spellings of a field: a key, and what the field carries. -/
def Field.Spelling (field : Field) (bytes : Bytes) : Prop :=
  ∃ form key content, IsKey field.number form key ∧ field.payload.Spelling form content ∧
    bytes = key ++ content

theorem splitAt?_append (front rest : Bytes) :
    splitAt? front.length (front ++ rest) = some (front, rest) := by
  have enough : front.length ≤ (front ++ rest).length := by
    rw [List.length_append]
    exact Nat.le_add_right _ _
  rw [splitAt?, if_pos enough, List.take_left' rfl, List.drop_left' rfl]

/-- What a field carries is read from every spelling of it, whatever comes after it. -/
theorem readPayload?_of_spelling {payload : Payload} {form : Form} {content : Bytes}
    (spelling : payload.Spelling form content) (number : Nat) (rest : Bytes) :
    readPayload? number form (content ++ rest) = some (payload, rest) := by
  cases spelling with
  | varint spelled =>
    rw [readPayload?, readVarint?_of_isVarint spelled]
    rfl
  | fixed64 size =>
    rw [readPayload?, ← size, splitAt?_append]
    rfl
  | delimited spelled =>
    rw [readPayload?, List.append_assoc, readVarint?_of_isVarint spelled]
    simp only [Option.bind_eq_bind, Option.bind_some, splitAt?_append]
  | fixed32 size =>
    rw [readPayload?, ← size, splitAt?_append]
    rfl

theorem Field.Spelling.ne_nil {field : Field} {bytes : Bytes} (spelling : field.Spelling bytes) :
    bytes ≠ [] := by
  obtain ⟨form, key, content, isKey, -, rfl⟩ := spelling
  exact List.append_ne_nil_of_left_ne_nil isKey.spelled.ne_nil content

/-- **One field is read**, and the others are read from what comes after it. -/
theorem readFieldsWithin?_of_spelling {field : Field} {bytes : Bytes}
    (spelling : field.Spelling bytes) (fuel : Nat) (rest : Bytes) :
    readFieldsWithin? (fuel + 1) (bytes ++ rest) =
      (readFieldsWithin? fuel rest).map (field :: ·) := by
  have some : bytes ++ rest ≠ [] := List.append_ne_nil_of_left_ne_nil spelling.ne_nil rest
  obtain ⟨form, key, content, isKey, carried, rfl⟩ := spelling
  rw [readFieldsWithin?, List.append_assoc, readKey?_of_isKey isKey]
  · simp only [Option.bind_eq_bind, Option.bind_some, readPayload?_of_spelling carried]
    exact Option.map_eq_bind.symm
  · exact some

/-! ### Messages -/

/-- The spellings of a row of fields. -/
def IsMessageOf (fields : List Field) (bytes : Bytes) : Prop :=
  ∃ parts, List.Forall₂ Field.Spelling fields parts ∧ bytes = parts.flatten

theorem IsMessageOf.append {first second : List Field} {front back : Bytes}
    (left : IsMessageOf first front) (right : IsMessageOf second back) :
    IsMessageOf (first ++ second) (front ++ back) := by
  obtain ⟨before, leading, rfl⟩ := left
  obtain ⟨after, trailing, rfl⟩ := right
  exact ⟨before ++ after, List.rel_append leading trailing, List.flatten_append.symm⟩

/-- By induction on the fields: each of them takes a byte at least, so that fuel for every byte is
fuel for every field. -/
theorem readFieldsWithin?_of_forall₂ {fields : List Field} {parts : List Bytes}
    (spelled : List.Forall₂ Field.Spelling fields parts) {fuel : Nat}
    (enough : parts.flatten.length ≤ fuel) :
    readFieldsWithin? fuel parts.flatten = some fields := by
  induction spelled generalizing fuel with
  | nil => rw [List.flatten_nil, readFieldsWithin?]
  | @cons field part fields parts spelling _ ih =>
    have size := List.length_pos_iff.mpr spelling.ne_nil
    rw [List.flatten_cons, List.length_append] at enough
    obtain ⟨fuel, rfl⟩ : ∃ less, fuel = less + 1 := Nat.exists_eq_add_one.mpr (by omega)
    rw [List.flatten_cons, readFieldsWithin?_of_spelling spelling, ih (by omega), Option.map_some]

/-- **A row of fields is read from every spelling of it.** -/
theorem readFields?_of_isMessageOf {fields : List Field} {bytes : Bytes}
    (message : IsMessageOf fields bytes) : readFields? bytes = some fields := by
  obtain ⟨parts, spelled, rfl⟩ := message
  exact readFieldsWithin?_of_forall₂ spelled (Nat.le_refl _)

/-! ### Writing -/

/-- What a field carries can be written: numbers and lengths have 64 bits, and a group has no
content to write. -/
def Payload.Fits : Payload → Prop
  | .varint value => value < UInt64.size
  | .fixed64 bytes => bytes.length = 8
  | .delimited bytes => bytes.length < UInt64.size
  | .group => False
  | .fixed32 bytes => bytes.length = 4

/-- A field can be written: its number is not zero and leaves room for the form in a key. -/
structure Field.Fits (field : Field) : Prop where
  positive : 0 < field.number
  numbered : 8 * field.number + 7 < UInt32.size
  payload : field.payload.Fits

theorem Field.spelling_write {field : Field} (fits : field.Fits) : field.Spelling field.write := by
  have key (form : Form) : IsKey field.number form (writeKey field.number form) := by
    have code := form.code_lt
    have room := fits.numbered
    exact isKey_writeKey fits.positive (by omega)
  have payload := fits.payload
  unfold write
  split
  · rename_i value carried
    rw [carried] at payload
    exact ⟨_, _, _, key .varint, carried ▸ .varint (isVarint_writeVarint payload), rfl⟩
  · rename_i bytes carried
    rw [carried] at payload
    exact ⟨_, _, _, key .fixed64, carried ▸ .fixed64 payload, rfl⟩
  · rename_i bytes carried
    rw [carried] at payload
    exact ⟨_, _, _, key .delimited, carried ▸ .delimited (isVarint_writeVarint payload),
      List.append_assoc _ _ _⟩
  · rename_i carried
    rw [carried] at payload
    exact payload.elim
  · rename_i bytes carried
    rw [carried] at payload
    exact ⟨_, _, _, key .fixed32, carried ▸ .fixed32 payload, rfl⟩

/-- **What is written is a spelling.** -/
theorem isMessageOf_writeFields {fields : List Field} (fits : ∀ field ∈ fields, field.Fits) :
    IsMessageOf fields (writeFields fields) := by
  refine ⟨fields.map Field.write, ?_, List.flatMap_def⟩
  exact List.forall₂_map_right_iff.mpr
    (List.forall₂_same.mpr fun field member => Field.spelling_write (fits field member))

end LogProbe.Wire
