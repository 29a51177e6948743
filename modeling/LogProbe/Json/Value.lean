/-
**Values of JSON.** What a document means once names that repeat are settled: the last member of a
name counts, and the members of an object stand in the order of their names.

* `Json.Value` — the values.
* `Json.Document.value?` — the value of a document: its strings are Unicode, its numbers are in
  range, and at most `depthLimit` arrays and objects stand inside each other.
* `Json.Value.ofBytes?`, `Json.Value.ofText?` — the value in a byte string or text.
* `Json.Value.text` — a value without white space. Names and strings escape the quote, the
  backslash and the controls below U+0020; all else stands as it is.
-/

import LogProbe.Json.Number
import LogProbe.Text.Utf8

namespace LogProbe.Json

/-- A value. -/
inductive Value where
  | null
  | boolean (value : Bool)
  | number (value : Number)
  | string (text : String)
  | array (items : List Value)
  | object (fields : List (String × Value))
deriving Inhabited

/-- How many arrays and objects may stand inside each other. -/
def depthLimit : Nat := 127

/-- The bytes of a string. A unit from the high surrogates counts together with the unit after it,
which is from the low ones; no other unit is a surrogate. -/
def unescape? : List Piece → Option Bytes
  | [] => some []
  | .byte value :: rest => do
    let bytes ← unescape? rest
    some (value :: bytes)
  | .unit high :: rest =>
    if 0xDC00 ≤ high ∧ high ≤ 0xDFFF then none
    else if 0xD800 ≤ high ∧ high ≤ 0xDBFF then
      match rest with
      | .unit low :: rest =>
        if 0xDC00 ≤ low ∧ low ≤ 0xDFFF then do
          let bytes ← unescape? rest
          let scalar := 0x10000 + (high - 0xD800) * 0x400 + (low - 0xDC00)
          some (String.utf8EncodeChar (Char.ofNat scalar) ++ bytes)
        else none
      | _ => none
    else do
      let bytes ← unescape? rest
      some (String.utf8EncodeChar (Char.ofNat high) ++ bytes)

/-- The text of a string. -/
def textOf? (pieces : List Piece) : Option String := do
  let bytes ← unescape? pieces
  let chars ← Utf8.decode? bytes
  some (String.ofList chars)

/-- The fields of an object with one more, in the order of their names; a field of that name is
replaced. -/
def putField (name : String) (value : Value) : List (String × Value) → List (String × Value)
  | [] => [(name, value)]
  | (other, old) :: rest =>
    if name = other then (name, value) :: rest
    else if name < other then (name, value) :: (other, old) :: rest
    else (other, old) :: putField name value rest

/-- The fields put into an object one after the other. -/
def fieldsOf (members : List (String × Value)) : List (String × Value) :=
  members.foldl (fun fields member => putField member.1 member.2 fields) []

mutual

/-- The value of a document in which at most `depth` arrays and objects stand inside each
other. -/
def valueWithin? : Nat → Document → Option Value
  | _, .null => some .null
  | _, .boolean value => some (.boolean value)
  | _, .number numeral => do
    let number ← numeral.number?
    some (.number number)
  | _, .string pieces => do
    let text ← textOf? pieces
    some (.string text)
  | 0, .array _ => none
  | depth + 1, .array items => do
    let items ← valuesWithin? depth items
    some (.array items)
  | 0, .object _ => none
  | depth + 1, .object members => do
    let members ← membersWithin? depth members
    some (.object (fieldsOf members))

/-- The values of several documents. -/
def valuesWithin? : Nat → List Document → Option (List Value)
  | _, [] => some []
  | depth, item :: rest => do
    let value ← valueWithin? depth item
    let values ← valuesWithin? depth rest
    some (value :: values)

/-- The names and values of members, as they stand. -/
def membersWithin? : Nat → List (List Piece × Document) → Option (List (String × Value))
  | _, [] => some []
  | depth, (name, item) :: rest => do
    let name ← textOf? name
    let value ← valueWithin? depth item
    let members ← membersWithin? depth rest
    some ((name, value) :: members)

end

/-- The value of a document. -/
def Document.value? (document : Document) : Option Value := valueWithin? depthLimit document

namespace Value

/-- The value in a byte string. -/
def ofBytes? (bytes : Bytes) : Option Value := do
  let document ← Document.read? bytes
  document.value?

/-- The value in a text. -/
def ofText? (text : String) : Option Value := ofBytes? (Utf8.bytesOf text)

/-- A natural number as a value. -/
def natural (value : Nat) : Value := .number (.integer value)

/-- The field of an object with a given name. -/
def field? (name : String) : Value → Option Value
  | object fields => fields.lookup name
  | _ => none

end Value

/-- How a character stands in a string. -/
def escapedChar (c : Char) : List Char :=
  match c with
  | '"' => ['\\', '"']
  | '\\' => ['\\', '\\']
  | '\x08' => ['\\', 'b']
  | '\x0c' => ['\\', 'f']
  | '\n' => ['\\', 'n']
  | '\r' => ['\\', 'r']
  | '\t' => ['\\', 't']
  | c =>
    if c.toNat < 0x20 then
      ['\\', 'u', '0', '0', Nat.digitChar (c.toNat / 16), Nat.digitChar (c.toNat % 16)]
    else [c]

/-- A string between its quotes. -/
def stringChars (text : String) : List Char :=
  '"' :: text.toList.flatMap escapedChar ++ ['"']

mutual

/-- A value as it is written. -/
def Value.chars : Value → List Char
  | .null => ['n', 'u', 'l', 'l']
  | .boolean true => ['t', 'r', 'u', 'e']
  | .boolean false => ['f', 'a', 'l', 's', 'e']
  | .number value => value.chars
  | .string text => stringChars text
  | .array items => '[' :: itemsChars items ++ [']']
  | .object fields => '\x7b' :: fieldsChars fields ++ ['\x7d']

/-- Items with commas between them. -/
def itemsChars : List Value → List Char
  | [] => []
  | [item] => item.chars
  | item :: next :: rest => item.chars ++ ',' :: itemsChars (next :: rest)

/-- Fields with commas between them. -/
def fieldsChars : List (String × Value) → List Char
  | [] => []
  | [(name, value)] => stringChars name ++ ':' :: value.chars
  | (name, value) :: next :: rest =>
    stringChars name ++ ':' :: value.chars ++ ',' :: fieldsChars (next :: rest)

end

/-- A value as it is written. -/
def Value.text (value : Value) : String := String.ofList value.chars

end LogProbe.Json
