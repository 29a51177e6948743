/-
**Documents that hold nothing.** Three documents have nothing in them: `null` and the array and the
object without parts. A byte string is read as one of them exactly if it is spelled like one, with
white space in front, behind and between the brackets.

* `Json.Document.IsEmpty`, `Json.SpellsEmpty` — the three documents, and how each is spelled.
* `Json.IsEmptyText` — the grammar of the byte strings that hold nothing but one of them.
* `Json.exists_read?_isEmpty_iff` — reading finds such a document exactly in these byte strings.
* `Json.Value.exists_ofBytes?_isEmpty_iff` — and so does what they mean.
-/

import LogProbe.Proofs.Json.Reader

namespace LogProbe.Json

/-! ### Spellings -/

/-- The documents that hold nothing. -/
inductive Document.IsEmpty : Document → Prop where
  | null : IsEmpty .null
  | array : IsEmpty (.array [])
  | object : IsEmpty (.object [])

/-- The spellings of a document that holds nothing: the word `null`, or two brackets or braces with
white space between them. -/
inductive SpellsEmpty : Document → Bytes → Prop where
  | null : SpellsEmpty .null ("null".toList.map code)
  | array {gap : Bytes} : IsGap gap → SpellsEmpty (.array []) (code '[' :: gap ++ [code ']'])
  | object {gap : Bytes} : IsGap gap →
      SpellsEmpty (.object []) (code '\x7b' :: gap ++ [code '\x7d'])

/-- The byte strings of white space, a document that holds nothing, and white space. -/
def IsEmptyText (bytes : Bytes) : Prop :=
  ∃ document front word back, IsGap front ∧ SpellsEmpty document word ∧ IsGap back ∧
    bytes = front ++ word ++ back

/-! ### Reading -/

/-- A document that holds nothing is spelled like one. -/
theorem spellsEmpty_of_isEmpty {document : Document} {word : Bytes} (empty : document.IsEmpty)
    (spells : SpellsDocument document word) : SpellsEmpty document word := by
  cases spells with
  | null => exact .null
  | emptyArray isGap => exact .array isGap
  | emptyObject isGap => exact .object isGap
  | array nonempty each =>
    generalize kept : List.map Item.document _ = documents at empty
    cases empty
    exact absurd (List.map_eq_nil_iff.mp kept) nonempty
  | object nonempty each =>
    generalize kept : List.map (fun member : Member => (member.name, member.value.document)) _ =
      fields at empty
    cases empty
    exact absurd (List.map_eq_nil_iff.mp kept) nonempty
  | true | false | number | string => cases empty

theorem SpellsEmpty.spellsDocument {document : Document} {word : Bytes}
    (spells : SpellsEmpty document word) : SpellsDocument document word ∧ document.IsEmpty := by
  cases spells with
  | null => exact ⟨.null, .null⟩
  | array isGap => exact ⟨.emptyArray isGap, .array⟩
  | object isGap => exact ⟨.emptyObject isGap, .object⟩

/-- **Reading finds a document that holds nothing exactly in the texts of one.** -/
theorem exists_read?_isEmpty_iff {bytes : Bytes} :
    (∃ document, Document.read? bytes = some document ∧ document.IsEmpty) ↔ IsEmptyText bytes := by
  constructor
  · rintro ⟨document, read, empty⟩
    obtain ⟨front, word, back, leads, spells, trails, rfl⟩ := Document.read?_eq_some_iff.mp read
    exact ⟨document, front, word, back, leads, spellsEmpty_of_isEmpty empty spells, trails,
      (List.append_assoc _ _ _).symm⟩
  · rintro ⟨document, front, word, back, leads, spells, trails, rfl⟩
    obtain ⟨spells, empty⟩ := spells.spellsDocument
    exact ⟨document, Document.read?_eq_some_iff.mpr
      ⟨front, word, back, leads, spells, trails, List.append_assoc _ _ _⟩, empty⟩

/-! ### Values -/

/-- The values that hold nothing. -/
inductive Value.IsEmpty : Value → Prop where
  | null : IsEmpty .null
  | array : IsEmpty (.array [])
  | object : IsEmpty (.object [])

theorem putField_ne_nil (name : String) (value : Value) (fields : List (String × Value)) :
    putField name value fields ≠ [] := by
  cases fields with
  | nil => simp [putField]
  | cons field rest =>
    unfold putField
    split
    · simp
    · split <;> simp

/-- An object with members has a field at least, however many of them share a name. -/
theorem fieldsOf_eq_nil_iff {members : List (String × Value)} :
    fieldsOf members = [] ↔ members = [] := by
  constructor
  · intro nothing
    rcases List.eq_nil_or_concat members with rfl | ⟨front, last, rfl⟩
    · rfl
    · rw [fieldsOf, List.concat_eq_append, List.foldl_append] at nothing
      exact absurd nothing (putField_ne_nil _ _ _)
  · rintro rfl
    rfl

theorem eq_nil_of_valuesWithin? {depth : Nat} {items : List Document}
    (meant : valuesWithin? depth items = some []) : items = [] := by
  cases items with
  | nil => rfl
  | cons item rest =>
    rw [valuesWithin?] at meant
    obtain ⟨value, -, meant⟩ := Option.bind_eq_some_iff.mp meant
    obtain ⟨others, -, made⟩ := Option.bind_eq_some_iff.mp meant
    cases made

theorem eq_nil_of_membersWithin? {depth : Nat} {members : List (List Piece × Document)}
    (meant : membersWithin? depth members = some []) : members = [] := by
  cases members with
  | nil => rfl
  | cons member rest =>
    rw [membersWithin?] at meant
    obtain ⟨name, -, meant⟩ := Option.bind_eq_some_iff.mp meant
    obtain ⟨value, -, meant⟩ := Option.bind_eq_some_iff.mp meant
    obtain ⟨others, -, made⟩ := Option.bind_eq_some_iff.mp meant
    cases made

/-- Only a document that holds nothing means a value that does. -/
theorem exists_value_isEmpty_iff {depth : Nat} {document : Document} :
    (∃ value, valueWithin? (depth + 1) document = some value ∧ value.IsEmpty) ↔
      document.IsEmpty := by
  constructor
  · rintro ⟨value, meant, empty⟩
    cases document with
    | null => exact .null
    | boolean held =>
      rw [valueWithin?] at meant
      cases meant
      cases empty
    | number numeral =>
      rw [valueWithin?] at meant
      obtain ⟨number, -, made⟩ := Option.bind_eq_some_iff.mp meant
      cases made
      cases empty
    | string pieces =>
      rw [valueWithin?] at meant
      obtain ⟨text, -, made⟩ := Option.bind_eq_some_iff.mp meant
      cases made
      cases empty
    | array items =>
      rw [valueWithin?] at meant
      obtain ⟨values, inside, made⟩ := Option.bind_eq_some_iff.mp meant
      cases made
      cases empty
      rw [eq_nil_of_valuesWithin? inside]
      exact .array
    | object members =>
      rw [valueWithin?] at meant
      obtain ⟨fields, inside, made⟩ := Option.bind_eq_some_iff.mp meant
      have nothing : fieldsOf fields = [] := by
        cases made
        generalize fieldsOf fields = kept at empty
        cases empty
        rfl
      rw [fieldsOf_eq_nil_iff.mp nothing] at inside
      rw [eq_nil_of_membersWithin? inside]
      exact .object
  · intro empty
    cases empty with
    | null => exact ⟨.null, rfl, .null⟩
    | array => exact ⟨.array [], rfl, .array⟩
    | object => exact ⟨.object [], rfl, .object⟩

/-- **A byte string means a value that holds nothing exactly if it is the text of one.** -/
theorem Value.exists_ofBytes?_isEmpty_iff {bytes : Bytes} :
    (∃ value, ofBytes? bytes = some value ∧ value.IsEmpty) ↔ IsEmptyText bytes := by
  rw [← exists_read?_isEmpty_iff]
  constructor
  · rintro ⟨value, found, empty⟩
    obtain ⟨document, read, meant⟩ := Option.bind_eq_some_iff.mp found
    exact ⟨document, read, exists_value_isEmpty_iff.mp ⟨value, meant, empty⟩⟩
  · rintro ⟨document, read, empty⟩
    obtain ⟨value, meant, hollow⟩ := exists_value_isEmpty_iff.mpr empty
    exact ⟨value, Option.bind_eq_some_iff.mpr ⟨document, read, meant⟩, hollow⟩

end LogProbe.Json
