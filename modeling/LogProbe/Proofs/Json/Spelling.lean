/-
**Documents that spell a value.** A document keeps more than a value does: how a string is escaped,
how a number is written, which members repeat a name. It spells a value when its strings are those
texts, its whole numerals those integers, and its items and members stand in the order of the
value's. The digits of binary64 numbers are left open.

* `Json.Document.Spells` — the relation.
* `Json.Document.exists_named?_of_spells` — the members of an object by their names.
* `Json.valueWithin?_of_spells` — what such a document means, if the value is normal and its numbers
  are integers.
-/

import LogProbe.Json.Record
import LogProbe.Proofs.Json.Normal
import Mathlib.Data.List.Forall2

namespace LogProbe.Json

namespace Document

/-- A document spells a value. -/
inductive Spells : Document → Value → Prop
  | null : Spells .null .null
  | boolean (value : Bool) : Spells (.boolean value) (.boolean value)
  | integer {numeral : Numeral} {value : Int} (denotes : numeral.Denotes value) :
      Spells (.number numeral) (.number (.integer value))
  | real (numeral : Numeral) (value : Binary64) : Spells (.number numeral) (.number (.real value))
  | string {pieces : List Piece} {text : String} (meant : textOf? pieces = some text) :
      Spells (.string pieces) (.string text)
  | array {documents : List Document} {items : List Value}
      (each : List.Forall₂ Spells documents items) : Spells (.array documents) (.array items)
  | object {members : List (List Piece × Document)} {fields : List (String × Value)}
      (names : List.Forall₂ (fun member field => textOf? member.1 = some field.1) members fields)
      (each : List.Forall₂ Spells (members.map Prod.snd) (fields.map Prod.snd)) :
      Spells (.object members) (.object fields)

/-- An object with one more member. -/
theorem Spells.cons {pieces : List Piece} {name : String} (named : textOf? pieces = some name)
    {document : Document} {value : Value} (first : document.Spells value)
    {members : List (List Piece × Document)} {fields : List (String × Value)}
    (others : Spells (.object members) (.object fields)) :
    Spells (.object ((pieces, document) :: members)) (.object ((name, value) :: fields)) := by
  cases others with
  | object names each => exact .object (.cons named names) (.cons first each)

/-- A member by its name, and the field that it spells. -/
structure SpellsField (member : String × Document) (field : String × Value) : Prop where
  name : member.1 = field.1
  value : member.2.Spells field.2

/-- **The members of an object by their names** are those of the fields. -/
theorem exists_named?_of_spells {members : List (List Piece × Document)}
    {fields : List (String × Value)} (spells : Spells (.object members) (.object fields)) :
    ∃ named, named? members = some named ∧ List.Forall₂ SpellsField named fields := by
  cases spells with
  | object names each =>
    induction names with
    | nil => exact ⟨[], rfl, .nil⟩
    | @cons member field members fields name _ ih =>
      obtain ⟨first, rest⟩ := List.forall₂_cons.mp each
      obtain ⟨named, read, spelled⟩ := ih rest
      refine ⟨(field.1, member.2) :: named, ?_, .cons ⟨rfl, first⟩ spelled⟩
      rw [named?, name, read]
      rfl

end Document

/-! ### What such a document means -/

variable {depth : Nat}

theorem valuesWithin?_of_spells {documents : List Document} {items : List Value}
    (each : List.Forall₂ Document.Spells documents items)
    (meant : ∀ item ∈ items, ∀ {document : Document}, document.Spells item →
      valueWithin? depth document = some item) : valuesWithin? depth documents = some items := by
  induction each with
  | nil => rw [valuesWithin?]
  | cons spells _ ih =>
    obtain ⟨first, others⟩ := List.forall_mem_cons.mp meant
    rw [valuesWithin?, first spells, ih others]
    rfl

theorem membersWithin?_of_spells {members : List (List Piece × Document)}
    {fields : List (String × Value)}
    (names : List.Forall₂ (fun member field => textOf? member.1 = some field.1) members fields)
    (each : List.Forall₂ Document.Spells (members.map Prod.snd) (fields.map Prod.snd))
    (meant : ∀ field ∈ fields, ∀ {document : Document}, document.Spells field.2 →
      valueWithin? depth document = some field.2) : membersWithin? depth members = some fields := by
  induction names with
  | nil => rw [membersWithin?]
  | cons name _ ih =>
    obtain ⟨spells, rest⟩ := List.forall₂_cons.mp each
    obtain ⟨first, others⟩ := List.forall_mem_cons.mp meant
    rw [membersWithin?, name, first spells, ih rest others]
    rfl

/-- **What a document means that spells a normal value of integers** is that value. -/
theorem valueWithin?_of_spells {document : Document} {value : Value}
    (spells : document.Spells value) (normal : value.IsNormal depth) (whole : value.IsWhole) :
    valueWithin? depth document = some value := by
  induction normal generalizing document with
  | null =>
    cases spells
    rw [valueWithin?]
  | boolean value =>
    cases spells
    rw [valueWithin?]
  | number fits =>
    cases whole
    cases spells with
    | integer denotes =>
      rw [valueWithin?, Numeral.number?, denotes.integer? fits]
      rfl
  | string text =>
    cases spells with
    | string meant =>
      rw [valueWithin?, meant]
      rfl
  | array _ ih =>
    cases whole with
    | array whole =>
      cases spells with
      | array each =>
        have items := valuesWithin?_of_spells each
          fun item member _ spells => ih item member spells (whole item member)
        rw [valueWithin?, items]
        rfl
  | object ascends _ ih =>
    cases whole with
    | object whole =>
      cases spells with
      | object names each =>
        have fields := membersWithin?_of_spells names each
          fun field member _ spells => ih field member spells (whole field member)
        -- they are put into a new object one by one, which changes nothing as they ascend
        rw [valueWithin?, fields]
        simp only [Option.bind_eq_bind, Option.bind_some, fieldsOf_eq_self ascends]

end LogProbe.Json
