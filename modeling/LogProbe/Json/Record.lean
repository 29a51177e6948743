/-
**Records in JSON.** A record is read from a document by the names of its fields. It may be given
as an object, whose other members are passed over whatever they hold, or as an array of the fields
in their order, of which the last ones may be missing.

* `Json.Document.record?` — the documents of the named fields, where they are given.
* `Json.Document.natural?`, `Json.Document.text?`, `Json.Document.choice?` — what a field holds.
-/

import LogProbe.Json.Value

namespace LogProbe.Json.Document

/-- The members of an object by their names. -/
def named? : List (List Piece × Document) → Option (List (String × Document))
  | [] => some []
  | (pieces, value) :: rest => do
    let name ← textOf? pieces
    let members ← named? rest
    some ((name, value) :: members)

/-- The only document of a name, or none; a name must not repeat. -/
def only? (members : List (String × Document)) (name : String) : Option (Option Document) :=
  match members.filter fun member => member.1 = name with
  | [] => some none
  | [member] => some (some member.2)
  | _ => none

/-- The documents of the fields with the given names, in the order of the names. -/
def record? (names : List String) : Document → Option (List (Option Document))
  | object members => do
    let members ← named? members
    names.mapM (only? members)
  | array items =>
    if items.length ≤ names.length then
      some (items.map some ++ List.replicate (names.length - items.length) none)
    else none
  | _ => none

/-- The natural number below `bound` that a document writes without fraction and exponent. -/
def natural? (bound : Nat) : Document → Option Nat
  | number numeral =>
    match numeral.integer? with
    | some (.ofNat value) => if value < bound then some value else none
    | _ => none
  | _ => none

/-- The text of a string. -/
def text? : Document → Option String
  | string pieces => textOf? pieces
  | _ => none

/-- The items of an array. -/
def items? : Document → Option (List Document)
  | array items => some items
  | _ => none

/-- A name alone: a string, or an object with one member of that name that is null. -/
def choice? : Document → Option String
  | string pieces => textOf? pieces
  | object [(pieces, null)] => textOf? pieces
  | _ => none

/-- A field that must be given. -/
def required? {α : Type} (read? : Document → Option α) : Option Document → Option α
  | some document => read? document
  | none => none

/-- A field that has a value of its own when it is not given. -/
def defaulted? {α : Type} (value : α) (read? : Document → Option α) : Option Document → Option α
  | some document => read? document
  | none => some value

/-- A field that may be missing or null. -/
def optional? {α : Type} (read? : Document → Option α) : Option Document → Option (Option α)
  | none => some none
  | some null => some none
  | some document => (read? document).map some

end LogProbe.Json.Document
