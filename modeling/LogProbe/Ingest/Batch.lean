/-
**Batches of log records.** A batch is a list of records, each the fields of a JSON object in the
order of their names.

* `Batch.ofText` — the batch of a text, which holds an array of objects.
* `Batch.encryptField` — a batch with the texts of one field encrypted. A field that is missing or
  null stays as it is; the first one that holds anything else ends the encryption, and the records
  from there on stay as they are.
* `Batch.toValue`, `Batch.text` — the array that is sent.
-/

import LogProbe.Cipher.FieldEncryptor

namespace LogProbe

open Json

/-- The fields of a record. -/
abbrev LogRecord := List (String × Value)

/-- The records, in the order in which they are sent. -/
structure Batch where
  records : List LogRecord

namespace Batch

/-- What can be wrong with a batch. -/
inductive Error where
  | notJson
  | notArray
  | notObject (index : Nat) (value : Value)
  | notText (index : Nat) (field : String) (value : Value)

/-- An error in words; text that is no JSON has none of its own. -/
def Error.message? : Error → Option String
  | notJson => none
  | notArray => some "Expected a JSON array of records!"
  | notObject index value => some s!"Record {index} is not a JSON object: {value.text}"
  | notText index field value =>
    some s!"Record {index} has a non-string {Text.quoted field} field: {value.text}"

/-- The records of an array's items, the first of which has the number `index`. -/
def recordsOf : Nat → List Value → Except Error (List LogRecord)
  | _, [] => .ok []
  | index, .object fields :: rest => do
    let records ← recordsOf (index + 1) rest
    .ok (fields :: records)
  | index, value :: _ => .error (.notObject index value)

/-- The batch of a value. -/
def ofValue : Value → Except Error Batch
  | .array items => do
    let records ← recordsOf 0 items
    .ok ⟨records⟩
  | _ => .error .notArray

/-- The batch of a text. -/
def ofText (text : String) : Except Error Batch :=
  match Value.ofText? text with
  | none => .error .notJson
  | some value => ofValue value

/-- A batch as a value. -/
def toValue (batch : Batch) : Value := .array (batch.records.map .object)

/-- The text of a batch. -/
def text (batch : Batch) : String := batch.toValue.text

/-- How many records a batch has. -/
def size (batch : Batch) : Nat := batch.records.length

/-- A record with the value of a field that it has replaced. -/
def replaceField (name : String) (value : Value) : LogRecord → LogRecord
  | [] => []
  | (other, old) :: rest =>
    if name = other then (other, value) :: rest else (other, old) :: replaceField name value rest

/-- The records with one field encrypted as far as it goes, the first of them with the number
`index`, and how many were encrypted or what ended it. -/
def encryptRecords (encryptor : FieldEncryptor) (field : String) :
    Nat → List LogRecord → Except Error Nat × List LogRecord
  | _, [] => (.ok 0, [])
  | index, record :: rest =>
    match record.lookup field with
    | none | some .null =>
      let (result, rest) := encryptRecords encryptor field (index + 1) rest
      (result, record :: rest)
    | some (.string text) =>
      let (result, rest) := encryptRecords encryptor field (index + 1) rest
      (result.map (· + 1), replaceField field (.string (encryptor.encrypt text)) record :: rest)
    | some value => (.error (.notText index field value), record :: rest)

/-- The batch with one field encrypted as far as it goes, and how many records that were or what
ended it. -/
def encryptField (batch : Batch) (encryptor : FieldEncryptor) (field : String) :
    Except Error Nat × Batch :=
  let (result, records) := encryptRecords encryptor field 0 batch.records
  (result, ⟨records⟩)

end Batch

end LogProbe
