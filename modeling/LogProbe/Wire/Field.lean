/-
**Messages as numbered fields.** A message is a sequence of fields. Each has a number and a
payload of one of five forms; a group is a payload made of further fields up to its end mark.

* `Wire.Field`, `Wire.Field.write` — a field and its bytes.
* `Wire.readFields?` — all fields of a message, or nothing if its bytes are no message.

The contents of a group are checked and dropped: no message of this library looks into one.
Groups may stand inside each other to a depth of one hundred.
-/

import LogProbe.Wire.Varint

namespace LogProbe.Wire

/-- What a field carries. -/
inductive Payload where
  | varint (value : Nat)
  | fixed64 (bytes : Bytes)
  | delimited (bytes : Bytes)
  | group
  | fixed32 (bytes : Bytes)
deriving DecidableEq

/-- A field of a message. -/
structure Field where
  number : Nat
  payload : Payload
deriving DecidableEq

/-- The forms a key can announce. -/
inductive Form where
  | varint
  | fixed64
  | delimited
  | groupStart
  | groupEnd
  | fixed32
deriving DecidableEq

namespace Form

/-- The code of a form in the low three bits of a key. -/
def code : Form → Nat
  | varint => 0
  | fixed64 => 1
  | delimited => 2
  | groupStart => 3
  | groupEnd => 4
  | fixed32 => 5

/-- The form with a given code. -/
def ofCode? : Nat → Option Form
  | 0 => some varint
  | 1 => some fixed64
  | 2 => some delimited
  | 3 => some groupStart
  | 4 => some groupEnd
  | 5 => some fixed32
  | _ => none

end Form

/-- The bytes that open a field: its number and its form. -/
def writeKey (number : Nat) (form : Form) : Bytes := writeVarint (8 * number + form.code)

/-- The number and form at the head of a byte string. Keys have 32 bits, and no field has
number zero. -/
def readKey? (bytes : Bytes) : Option ((Nat × Form) × Bytes) := do
  let (key, rest) ← readVarint? bytes
  let form ← Form.ofCode? (key % 8)
  if key < UInt32.size ∧ 0 < key / 8 then some ((key / 8, form), rest) else none

/-- The first `size` bytes and the others, if there are that many. -/
def splitAt? (size : Nat) (bytes : Bytes) : Option (Bytes × Bytes) :=
  if size ≤ bytes.length then some (bytes.take size, bytes.drop size) else none

/-- How many groups may stand inside each other. -/
def groupDepth : Nat := 100

/-- Drops the rest of the innermost of the groups `opened`, and then of those around it. The bytes
after the outermost one are the answer. -/
def skipGroups? : Nat → List Nat → Bytes → Option Bytes
  | _, [], bytes => some bytes
  | 0, _ :: _, _ => none
  | fuel + 1, number :: outer, bytes => do
    let ((inner, form), rest) ← readKey? bytes
    if form = .groupEnd then
      if inner = number then skipGroups? fuel outer rest else none
    else if groupDepth ≤ (number :: outer).length then none
    else
      match form with
      | .varint =>
        let (_, rest) ← readVarint? rest
        skipGroups? fuel (number :: outer) rest
      | .fixed64 =>
        let (_, rest) ← splitAt? 8 rest
        skipGroups? fuel (number :: outer) rest
      | .delimited =>
        let (size, rest) ← readVarint? rest
        let (_, rest) ← splitAt? size rest
        skipGroups? fuel (number :: outer) rest
      | .fixed32 =>
        let (_, rest) ← splitAt? 4 rest
        skipGroups? fuel (number :: outer) rest
      | .groupStart => skipGroups? fuel (inner :: number :: outer) rest
      | .groupEnd => none

/-- The payload of a field whose key has been read. -/
def readPayload? (number : Nat) (form : Form) (bytes : Bytes) : Option (Payload × Bytes) :=
  match form with
  | .varint => do
    let (value, rest) ← readVarint? bytes
    some (.varint value, rest)
  | .fixed64 => do
    let (content, rest) ← splitAt? 8 bytes
    some (.fixed64 content, rest)
  | .delimited => do
    let (size, rest) ← readVarint? bytes
    let (content, rest) ← splitAt? size rest
    some (.delimited content, rest)
  | .groupStart => do
    let rest ← skipGroups? bytes.length [number] bytes
    some (.group, rest)
  | .groupEnd => none
  | .fixed32 => do
    let (content, rest) ← splitAt? 4 bytes
    some (.fixed32 content, rest)

/-- At most `fuel` fields that fill a byte string. -/
def readFieldsWithin? : Nat → Bytes → Option (List Field)
  | _, [] => some []
  | 0, _ :: _ => none
  | fuel + 1, bytes => do
    let ((number, form), rest) ← readKey? bytes
    let (payload, rest) ← readPayload? number form rest
    let fields ← readFieldsWithin? fuel rest
    some (⟨number, payload⟩ :: fields)

/-- The fields of a message. Each takes a byte at least, so that their number is bounded by the
length. -/
def readFields? (bytes : Bytes) : Option (List Field) := readFieldsWithin? bytes.length bytes

/-- The bytes of a field; a group is written empty. -/
def Field.write (field : Field) : Bytes :=
  match field.payload with
  | .varint value => writeKey field.number .varint ++ writeVarint value
  | .fixed64 bytes => writeKey field.number .fixed64 ++ bytes
  | .delimited bytes => writeKey field.number .delimited ++ writeVarint bytes.length ++ bytes
  | .group => writeKey field.number .groupStart ++ writeKey field.number .groupEnd
  | .fixed32 bytes => writeKey field.number .fixed32 ++ bytes

/-- The bytes of a message. -/
def writeFields (fields : List Field) : Bytes := fields.flatMap Field.write

end LogProbe.Wire
