/-
**Values that were read are normal.** The fields of an object stand in the order of their names and
no name repeats, integers fit 64 bits, and arrays and objects stand inside each other only as deep
as a document may.

* `Json.Value.induction` — induction over the items and fields of a value.
* `Json.Value.IsNormal` — the normal values, with room for a number of levels.
* `Json.Value.IsWhole` — the values whose numbers are integers.
* `Json.isNormal_of_valueWithin?` — what a document means is normal.
* `Json.isWhole_of_valueWithin?` — and its numbers are integers if those of the document are.
* `Json.fieldsOf_eq_self` — fields in the order of their names are kept as they are.
-/

import LogProbe.Proofs.Json.Integer
import Mathlib.Data.String.Basic

namespace LogProbe.Json

/-! ### Induction -/

/-- **Induction over values**: a property passes on from the items of an array to the array, and
from what the fields of an object hold to the object. -/
theorem Value.induction {motive : Value → Prop} (null : motive .null)
    (boolean : ∀ value, motive (.boolean value)) (number : ∀ value, motive (.number value))
    (string : ∀ text, motive (.string text))
    (array : ∀ items, (∀ item ∈ items, motive item) → motive (.array items))
    (object : ∀ fields, (∀ field ∈ fields, motive field.2) → motive (.object fields)) :
    ∀ value, motive value
  | .null => null
  | .boolean value => boolean value
  | .number value => number value
  | .string text => string text
  | .array items => array items fun item _inside =>
      induction null boolean number string array object item
  | .object fields => object fields fun field _inside =>
      induction null boolean number string array object field.2
termination_by value => sizeOf value
decreasing_by
  · have smaller := List.sizeOf_lt_of_mem _inside
    rw [Value.array.sizeOf_spec]
    omega
  · have smaller := List.sizeOf_lt_of_mem _inside
    obtain ⟨name, value⟩ := field
    rw [Prod.mk.sizeOf_spec] at smaller
    show sizeOf value < sizeOf (Value.object fields)
    rw [Value.object.sizeOf_spec]
    omega

/-! ### Fields in order -/

/-- The names of the fields ascend. -/
def Ascends (fields : List (String × Value)) : Prop :=
  fields.Pairwise fun field later => field.1 < later.1

theorem mem_putField {name : String} {value : Value} {fields : List (String × Value)}
    {field : String × Value} (member : field ∈ putField name value fields) :
    field = (name, value) ∨ field ∈ fields := by
  induction fields with
  | nil => exact .inl (List.mem_singleton.mp member)
  | cons first rest ih =>
    obtain ⟨other, old⟩ := first
    unfold putField at member
    split at member
    · rcases List.mem_cons.mp member with same | member
      · exact .inl same
      · exact .inr (List.mem_cons_of_mem _ member)
    split at member
    · exact List.mem_cons.mp member
    · rcases List.mem_cons.mp member with same | member
      · exact .inr (List.mem_cons.mpr (.inl same))
      · exact (ih member).imp_right (List.mem_cons_of_mem _)

/-- A field is put where its name belongs. -/
theorem ascends_putField (name : String) (value : Value) {fields : List (String × Value)}
    (ascends : Ascends fields) : Ascends (putField name value fields) := by
  induction fields with
  | nil => exact List.pairwise_singleton _ _
  | cons first rest ih =>
    obtain ⟨other, old⟩ := first
    obtain ⟨above, ascends⟩ := List.pairwise_cons.mp ascends
    unfold putField
    split
    · rename_i same
      exact List.pairwise_cons.mpr ⟨same ▸ above, ascends⟩
    rename_i different
    split
    · rename_i below
      refine List.pairwise_cons.mpr ⟨?_, List.pairwise_cons.mpr ⟨above, ascends⟩⟩
      intro field member
      rcases List.mem_cons.mp member with rfl | member
      · exact below
      · exact lt_trans below (above field member)
    · rename_i notBelow
      refine List.pairwise_cons.mpr ⟨?_, ih ascends⟩
      intro field member
      rcases mem_putField member with rfl | member
      · exact lt_of_le_of_ne (not_lt.mp notBelow) (Ne.symm different)
      · exact above field member

/-- **The fields of an object ascend**, and each of them is one of the members. -/
theorem ascends_fieldsOf (members : List (String × Value)) :
    Ascends (fieldsOf members) ∧ ∀ field ∈ fieldsOf members, field ∈ members := by
  have all : ∀ fields, Ascends fields →
      Ascends (members.foldl (fun fields member => putField member.1 member.2 fields) fields) ∧
        ∀ field ∈ members.foldl (fun fields member => putField member.1 member.2 fields) fields,
          field ∈ fields ∨ field ∈ members := by
    induction members with
    | nil => exact fun fields ascends => ⟨ascends, fun field member => .inl member⟩
    | cons first rest ih =>
      intro fields ascends
      obtain ⟨ascends, origin⟩ := ih _ (ascends_putField first.1 first.2 ascends)
      refine ⟨ascends, fun field member => ?_⟩
      rcases origin field member with member | member
      · rcases mem_putField member with rfl | member
        · exact .inr List.mem_cons_self
        · exact .inl member
      · exact .inr (List.mem_cons_of_mem _ member)
  obtain ⟨ascends, origin⟩ := all [] List.Pairwise.nil
  exact ⟨ascends, fun field member => (origin field member).resolve_left List.not_mem_nil⟩

/-- A field whose name is above all others is put at the end. -/
theorem putField_of_forall_lt {name : String} (value : Value) {fields : List (String × Value)}
    (above : ∀ field ∈ fields, field.1 < name) :
    putField name value fields = fields ++ [(name, value)] := by
  induction fields with
  | nil => rfl
  | cons first rest ih =>
    obtain ⟨below, above⟩ := List.forall_mem_cons.mp above
    unfold putField
    rw [if_neg (ne_of_gt below), if_neg (lt_asymm below), ih above]
    rfl

/-- **Fields that ascend are kept as they are.** -/
theorem fieldsOf_eq_self {fields : List (String × Value)} (ascends : Ascends fields) :
    fieldsOf fields = fields := by
  have all : ∀ rest front : List (String × Value), Ascends (front ++ rest) →
      rest.foldl (fun fields member => putField member.1 member.2 fields) front =
        front ++ rest := by
    intro rest
    induction rest with
    | nil => exact fun front _ => (List.append_nil front).symm
    | cons first rest ih =>
      intro front ascends
      have below : ∀ field ∈ front, field.1 < first.1 := fun field member =>
        (List.pairwise_append.mp ascends).2.2 field member first List.mem_cons_self
      have moved : front ++ first :: rest = front ++ [first] ++ rest := by
        rw [List.append_assoc, List.singleton_append]
      rw [List.foldl_cons, putField_of_forall_lt first.2 below, moved]
      exact ih _ (moved ▸ ascends)
  exact all fields [] ascends

/-! ### Normal values -/

/-- The numbers that can be read: integers fit 64 bits. -/
def Number.IsNormal : Number → Prop
  | .integer value => Fits value
  | .real _ => True

namespace Value

/-- The values that can be read with room for so many levels of arrays and objects. -/
inductive IsNormal : Nat → Value → Prop
  | null {depth : Nat} : IsNormal depth .null
  | boolean {depth : Nat} (value : Bool) : IsNormal depth (.boolean value)
  | number {depth : Nat} {value : Number} (normal : value.IsNormal) : IsNormal depth (.number value)
  | string {depth : Nat} (text : String) : IsNormal depth (.string text)
  | array {depth : Nat} {items : List Value} (normal : ∀ item ∈ items, IsNormal depth item) :
      IsNormal (depth + 1) (.array items)
  | object {depth : Nat} {fields : List (String × Value)} (ascends : Ascends fields)
      (normal : ∀ field ∈ fields, IsNormal depth field.2) : IsNormal (depth + 1) (.object fields)

/-- The values whose numbers are integers. -/
inductive IsWhole : Value → Prop
  | null : IsWhole .null
  | boolean (value : Bool) : IsWhole (.boolean value)
  | integer (value : Int) : IsWhole (.number (.integer value))
  | string (text : String) : IsWhole (.string text)
  | array {items : List Value} (whole : ∀ item ∈ items, IsWhole item) : IsWhole (.array items)
  | object {fields : List (String × Value)} (whole : ∀ field ∈ fields, IsWhole field.2) :
      IsWhole (.object fields)

end Value

/-- The documents whose numbers are integers that fit 64 bits. -/
inductive Document.IsWhole : Document → Prop
  | null : IsWhole .null
  | boolean (value : Bool) : IsWhole (.boolean value)
  | number {numeral : Numeral} {value : Int} (denotes : numeral.Denotes value) (fits : Fits value) :
      IsWhole (.number numeral)
  | string (pieces : List Piece) : IsWhole (.string pieces)
  | array {items : List Document} (each : ∀ item ∈ items, IsWhole item) : IsWhole (.array items)
  | object {members : List (List Piece × Document)} (each : ∀ member ∈ members, IsWhole member.2) :
      IsWhole (.object members)

/-- The integer of a numeral fits 64 bits. -/
theorem Numeral.fits_of_integer? {numeral : Numeral} {value : Int}
    (integer : numeral.integer? = some value) : Fits value := by
  unfold integer? at integer
  unfold Fits
  simp only [UInt64.size] at integer ⊢
  split at integer
  · exact nomatch integer
  split at integer
  · obtain ⟨range, built⟩ := Option.ite_none_right_eq_some.mp integer
    cases built
    omega
  · obtain ⟨range, built⟩ := Option.ite_none_right_eq_some.mp integer
    cases built
    omega

theorem Numeral.isNormal_number? {numeral : Numeral} {number : Number}
    (read : numeral.number? = some number) : number.IsNormal := by
  unfold number? at read
  split at read
  · rename_i value integer
    cases read
    exact fits_of_integer? integer
  · obtain ⟨magnitude, -, built⟩ := Option.bind_eq_some_iff.mp read
    cases built
    trivial

/-- Every value of several documents is the value of one of them. -/
theorem exists_valueWithin?_of_mem {depth : Nat} {items : List Document} {values : List Value}
    (read : valuesWithin? depth items = some values) :
    ∀ value ∈ values, ∃ item ∈ items, valueWithin? depth item = some value := by
  induction items generalizing values with
  | nil =>
    rw [valuesWithin?] at read
    cases read
    exact fun value member => absurd member List.not_mem_nil
  | cons item rest ih =>
    rw [valuesWithin?] at read
    obtain ⟨first, readFirst, read⟩ := Option.bind_eq_some_iff.mp read
    obtain ⟨others, readOthers, built⟩ := Option.bind_eq_some_iff.mp read
    cases built
    refine List.forall_mem_cons.mpr ⟨⟨item, List.mem_cons_self, readFirst⟩, fun value member => ?_⟩
    obtain ⟨origin, inside, meant⟩ := ih readOthers value member
    exact ⟨origin, List.mem_cons_of_mem _ inside, meant⟩

/-- The value of every field is the value of a member. -/
theorem exists_valueWithin?_of_mem_members {depth : Nat} {members : List (List Piece × Document)}
    {fields : List (String × Value)} (read : membersWithin? depth members = some fields) :
    ∀ field ∈ fields, ∃ member ∈ members, valueWithin? depth member.2 = some field.2 := by
  induction members generalizing fields with
  | nil =>
    rw [membersWithin?] at read
    cases read
    exact fun field member => absurd member List.not_mem_nil
  | cons first rest ih =>
    obtain ⟨pieces, item⟩ := first
    rw [membersWithin?] at read
    obtain ⟨name, -, read⟩ := Option.bind_eq_some_iff.mp read
    obtain ⟨value, readValue, read⟩ := Option.bind_eq_some_iff.mp read
    obtain ⟨others, readOthers, built⟩ := Option.bind_eq_some_iff.mp read
    cases built
    refine List.forall_mem_cons.mpr
      ⟨⟨(pieces, item), List.mem_cons_self, readValue⟩, fun field member => ?_⟩
    obtain ⟨origin, inside, meant⟩ := ih readOthers field member
    exact ⟨origin, List.mem_cons_of_mem _ inside, meant⟩

/-- What a document means is normal, if what the documents inside it mean is, which have one level
less. -/
theorem isNormal_of_inner {depth : Nat} {document : Document} {value : Value}
    (inner : ∀ less, depth = less + 1 → ∀ {document : Document} {value : Value},
      valueWithin? less document = some value → value.IsNormal less)
    (read : valueWithin? depth document = some value) : value.IsNormal depth := by
  cases document with
  | null =>
    rw [valueWithin?] at read
    cases read
    exact .null
  | boolean value =>
    rw [valueWithin?] at read
    cases read
    exact .boolean value
  | number numeral =>
    rw [valueWithin?] at read
    obtain ⟨number, readNumber, built⟩ := Option.bind_eq_some_iff.mp read
    cases built
    exact .number (Numeral.isNormal_number? readNumber)
  | string pieces =>
    rw [valueWithin?] at read
    obtain ⟨text, -, built⟩ := Option.bind_eq_some_iff.mp read
    cases built
    exact .string text
  | array items =>
    cases depth with
    | zero =>
      rw [valueWithin?] at read
      cases read
    | succ less =>
      rw [valueWithin?] at read
      obtain ⟨values, readItems, built⟩ := Option.bind_eq_some_iff.mp read
      cases built
      refine .array fun item member => ?_
      obtain ⟨document, -, readItem⟩ := exists_valueWithin?_of_mem readItems item member
      exact inner less rfl readItem
  | object members =>
    cases depth with
    | zero =>
      rw [valueWithin?] at read
      cases read
    | succ less =>
      rw [valueWithin?] at read
      obtain ⟨named, readMembers, built⟩ := Option.bind_eq_some_iff.mp read
      cases built
      obtain ⟨ascends, origin⟩ := ascends_fieldsOf named
      refine .object ascends fun field member => ?_
      obtain ⟨document, -, readField⟩ :=
        exists_valueWithin?_of_mem_members readMembers field (origin field member)
      exact inner less rfl readField

/-- **What a document means is normal**, by induction on the levels. -/
theorem isNormal_of_valueWithin? {depth : Nat} {document : Document} {value : Value}
    (read : valueWithin? depth document = some value) : value.IsNormal depth := by
  induction depth generalizing document value with
  | zero => exact isNormal_of_inner (fun less same => absurd same (Nat.succ_ne_zero less).symm) read
  | succ depth ih =>
    refine isNormal_of_inner (fun less same => ?_) read
    cases same
    exact ih

/-- The numbers of a document's value are those of the document. -/
theorem isWhole_of_valueWithin? {depth : Nat} {document : Document} {value : Value}
    (whole : document.IsWhole) (read : valueWithin? depth document = some value) :
    value.IsWhole := by
  induction whole generalizing depth value with
  | null =>
    rw [valueWithin?] at read
    cases read
    exact .null
  | boolean held =>
    rw [valueWithin?] at read
    cases read
    exact .boolean held
  | number denotes fits =>
    rw [valueWithin?, Numeral.number?, denotes.integer? fits] at read
    cases read
    exact .integer _
  | string pieces =>
    rw [valueWithin?] at read
    obtain ⟨text, -, made⟩ := Option.bind_eq_some_iff.mp read
    cases made
    exact .string text
  | array _ ih =>
    cases depth with
    | zero =>
      rw [valueWithin?] at read
      cases read
    | succ depth =>
      rw [valueWithin?] at read
      obtain ⟨values, found, made⟩ := Option.bind_eq_some_iff.mp read
      cases made
      refine .array fun value member => ?_
      obtain ⟨item, inside, meant⟩ := exists_valueWithin?_of_mem found value member
      exact ih item inside meant
  | object _ ih =>
    cases depth with
    | zero =>
      rw [valueWithin?] at read
      cases read
    | succ depth =>
      rw [valueWithin?] at read
      obtain ⟨fields, found, made⟩ := Option.bind_eq_some_iff.mp read
      cases made
      -- a field of the object is one of the members, however many share its name
      refine .object fun field kept => ?_
      obtain ⟨member, inside, meant⟩ := exists_valueWithin?_of_mem_members found field
        ((ascends_fieldsOf fields).2 field kept)
      exact ih member inside meant

/-- What a text means is normal. -/
theorem Value.isNormal_of_ofText? {text : String} {value : Value}
    (read : ofText? text = some value) : value.IsNormal depthLimit := by
  obtain ⟨document, -, meant⟩ := Option.bind_eq_some_iff.mp read
  exact isNormal_of_valueWithin? meant

end LogProbe.Json
