/-
**Places inside values.** A path of keys and indices leads from a value to a value inside it. An
object with a given name is found in a value exactly if a path leads to it, so that it is found from
further outside as well, and no other string in the value has a part in the search.

* `Json.Step`, `Json.Value.Leads` — paths, and what they lead to.
* `Json.Value.reworded` — a value with its keys changed, and its strings but for those of a name.
* `Json.Value.namesRole_iff_exists_path` — the law.
-/

import LogProbe.Proofs.Json.Normal
import LogProbe.Roles.Scenario
import Mathlib.Logic.Basic

namespace LogProbe.Json

/-! ### Paths -/

/-- A step into a value: to what an object holds under a key, or to the item of an array with a
number. -/
inductive Step where
  | key (name : String)
  | index (number : Nat)
deriving DecidableEq

namespace Value

/-- A path leads from a value to a value inside it. -/
inductive Leads : Value → List Step → Value → Prop
  | here {value : Value} : Leads value [] value
  | field {fields : List (String × Value)} {name : String} {value target : Value}
      {path : List Step} (member : (name, value) ∈ fields) (rest : Leads value path target) :
      Leads (.object fields) (.key name :: path) target
  | item {items : List Value} {number : Nat} {value target : Value} {path : List Step}
      (found : items[number]? = some value) (rest : Leads value path target) :
      Leads (.array items) (.index number :: path) target

/-- An object that has a given name. -/
def HasName (name : String) (value : Value) : Prop := value.field? "name" = some (.string name)

end Value

/-! ### The search -/

section Search

variable {name : String}

theorem itemsNameRole_eq (items : List Value) :
    itemsNameRole name items = items.any (Value.namesRole name) := by
  induction items with
  | nil => rfl
  | cons item rest ih => rw [itemsNameRole, List.any_cons, ih]

theorem fieldsNameRole_eq (fields : List (String × Value)) :
    fieldsNameRole name fields = fields.any fun field => field.2.namesRole name := by
  induction fields with
  | nil => rfl
  | cons field rest ih => rw [fieldsNameRole, List.any_cons, ih]

namespace Value

theorem namesRole_array {items : List Value} :
    (array items).namesRole name = true ↔ ∃ item ∈ items, item.namesRole name = true := by
  rw [namesRole, itemsNameRole_eq, List.any_eq_true]

/-- An object is found by its own name, or by one inside it, under whatever key. -/
theorem namesRole_object {fields : List (String × Value)} :
    (object fields).namesRole name = true ↔
      (object fields).HasName name ∨ ∃ field ∈ fields, field.2.namesRole name = true := by
  rw [namesRole, Bool.or_eq_true, fieldsNameRole_eq, List.any_eq_true]
  refine or_congr_left ?_
  unfold HasName field?
  split
  · rename_i text found
    simp [found]
  · rename_i other
    simpa using other name

/-- **What is found is at the end of a path**, by induction on the value. -/
theorem exists_path_of_namesRole {body : Value} (found : body.namesRole name = true) :
    ∃ path target, body.Leads path target ∧ target.HasName name := by
  induction body using induction with
  | null => exact nomatch found
  | boolean => exact nomatch found
  | number => exact nomatch found
  | string => exact nomatch found
  | array items ih =>
    obtain ⟨item, member, found⟩ := namesRole_array.mp found
    obtain ⟨path, target, leads, named⟩ := ih item member found
    obtain ⟨number, place⟩ := List.mem_iff_getElem?.mp member
    exact ⟨.index number :: path, target, .item place leads, named⟩
  | object fields ih =>
    obtain named | ⟨field, member, found⟩ := namesRole_object.mp found
    · exact ⟨[], .object fields, .here, named⟩
    · obtain ⟨path, target, leads, named⟩ := ih field member found
      exact ⟨.key field.1 :: path, target, .field member leads, named⟩

/-- **What is found is found from further outside**, by induction on the path. -/
theorem Leads.namesRole {outer body : Value} {path : List Step} (leads : outer.Leads path body)
    (found : body.namesRole name = true) : outer.namesRole name = true := by
  induction leads with
  | here => exact found
  | field member _ ih => exact namesRole_object.mpr (.inr ⟨_, member, ih found⟩)
  | item place _ ih => exact namesRole_array.mpr ⟨_, List.mem_of_getElem? place, ih found⟩

/-- Only an object has a name, and it is found. -/
theorem HasName.namesRole {value : Value} (named : value.HasName name) :
    value.namesRole name = true := by
  cases value with
  | object fields => exact namesRole_object.mpr (.inl named)
  | null | boolean | number | string | array => exact nomatch named

end Value

end Search

/-! ### Other strings -/

mutual

/-- A value with its keys changed, and with its strings changed but for those of a name; the value
itself counts as one if it is given as that. -/
def Value.reworded (text key : String → String) : Bool → Value → Value
  | isName, .string held => .string (if isName then held else text held)
  | _, .array items => .array (itemsReworded text key items)
  | _, .object fields => .object (fieldsReworded text key fields)
  | _, value => value

/-- The items of an array that is reworded. -/
def itemsReworded (text key : String → String) : List Value → List Value
  | [] => []
  | item :: rest => item.reworded text key false :: itemsReworded text key rest

/-- The fields of an object that is reworded. -/
def fieldsReworded (text key : String → String) : List (String × Value) → List (String × Value)
  | [] => []
  | (name, value) :: rest =>
    (key name, value.reworded text key (name == "name")) :: fieldsReworded text key rest

end

section Reworded

variable {name : String} {text key : String → String}

theorem itemsReworded_eq (items : List Value) :
    itemsReworded text key items = items.map (Value.reworded text key false) := by
  induction items with
  | nil => rfl
  | cons item rest ih => rw [itemsReworded, List.map_cons, ih]

theorem fieldsReworded_eq (fields : List (String × Value)) :
    fieldsReworded text key fields = fields.map fun field =>
      (key field.1, field.2.reworded text key (field.1 == "name")) := by
  induction fields with
  | nil => rfl
  | cons field rest ih => rw [fieldsReworded, List.map_cons, ih]

/-- Under the key of names stands what stood there, but for the strings inside it. -/
theorem lookup_fieldsReworded (keeps : ∀ other, key other = "name" ↔ other = "name")
    (fields : List (String × Value)) :
    (fieldsReworded text key fields).lookup "name" =
      (fields.lookup "name").map (Value.reworded text key true) := by
  induction fields with
  | nil => rfl
  | cons field rest ih =>
    obtain ⟨other, value⟩ := field
    rw [fieldsReworded, List.lookup_cons, List.lookup_cons, ih]
    by_cases own : other = "name"
    · have same : key other = "name" := (keeps other).mpr own
      rw [same, own, beq_self_eq_true]
      rfl
    · have differs : key other ≠ "name" := fun same => own ((keeps other).mp same)
      simp [beq_false_of_ne (Ne.symm own), beq_false_of_ne (Ne.symm differs)]

/-- No object gets or loses a name. -/
theorem hasName_reworded (keeps : ∀ other, key other = "name" ↔ other = "name")
    (fields : List (String × Value)) :
    (Value.object (fieldsReworded text key fields)).HasName name ↔
      (Value.object fields).HasName name := by
  show (fieldsReworded text key fields).lookup "name" = _ ↔ fields.lookup "name" = _
  rw [lookup_fieldsReworded keeps]
  cases fields.lookup "name" with
  | none => simp
  | some value => cases value <;> simp [Value.reworded]

/-- **No other string has a part in the search**, by induction on the value. -/
theorem Value.namesRole_reworded (keeps : ∀ other, key other = "name" ↔ other = "name")
    (isName : Bool) (body : Value) :
    (body.reworded text key isName).namesRole name = body.namesRole name := by
  rw [Bool.eq_iff_iff]
  induction body using induction generalizing isName with
  | null => rfl
  | boolean => rfl
  | number => rfl
  | string => rfl
  | array items ih =>
    rw [reworded, namesRole_array, namesRole_array, itemsReworded_eq]
    simp only [List.mem_map, exists_exists_and_eq_and]
    exact exists_congr fun item => and_congr_right fun member => ih item member false
  | object fields ih =>
    rw [reworded, namesRole_object, namesRole_object, hasName_reworded keeps, fieldsReworded_eq]
    simp only [List.mem_map, exists_exists_and_eq_and]
    exact or_congr_right (exists_congr fun field =>
      and_congr_right fun member => ih field member _)

end Reworded

/-! ### The law -/

/-- **The search for a name.** A name is found in a value exactly if a path of keys and indices
leads to an object that has it; then it is found in every value that this one is inside of. Whatever
the other strings of the value are changed to, be it the name itself, and the keys but for that of
names, the outcome stays the same. -/
theorem Value.namesRole_iff_exists_path (body : Value) (name : String) :
    (body.namesRole name = true ↔ ∃ path target, body.Leads path target ∧ target.HasName name) ∧
    (∀ (outer : Value) (path : List Step), outer.Leads path body → body.namesRole name = true →
      outer.namesRole name = true) ∧
    ∀ text key : String → String, (∀ other, key other = "name" ↔ other = "name") →
      (body.reworded text key false).namesRole name = body.namesRole name := by
  refine ⟨⟨exists_path_of_namesRole, ?_⟩, fun _ _ leads found => leads.namesRole found,
    fun text key keeps => namesRole_reworded keeps false body⟩
  rintro ⟨path, target, leads, named⟩
  exact leads.namesRole named.namesRole

/-- A name inside a list that stands where a name could stand, beside other strings. -/
def nestedBody : Value :=
  .object [("role", .object [("name", .array [.null, .object [("name", .string "a")]]),
    ("title", .string "b")]), ("tags", .array [.string "b"])]

/-- The name is found, also in a list around the value; the other strings could be any others. -/
theorem Value.namesRole_iff_exists_path_nested :
    nestedBody.namesRole "a" = true ∧ (Value.array [nestedBody]).namesRole "a" = true ∧
      (nestedBody.reworded (fun _ => "c") id false).namesRole "c" = false := by
  obtain ⟨found, wrapped, -⟩ := namesRole_iff_exists_path nestedBody "a"
  have named : nestedBody.namesRole "a" = true :=
    found.mpr ⟨[.key "role", .key "name", .index 1], _, .field List.mem_cons_self
      (.field List.mem_cons_self (.item rfl .here)), rfl⟩
  refine ⟨named, wrapped _ [.index 0] (.item rfl .here) named, ?_⟩
  rw [(namesRole_iff_exists_path nestedBody "c").2.2 _ id fun _ => Iff.rfl]
  rfl

end LogProbe.Json
