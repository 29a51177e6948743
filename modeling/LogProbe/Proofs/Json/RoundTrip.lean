/-
**Values come back from JSON.** What is written of a value spells a document, which spells the value
in turn. If the numbers of the value are integers, the names of each object are in order and there
are no more levels than a document may have, then the document means the value.

* `Json.IsWritten` — what is written of a value spells a document.
* `Json.exists_items_of_isWritten`, `Json.exists_members_of_isWritten` — so do items and fields, if
  each of the values does.
* `Json.Value.exists_read?_text` — the text of a value is a document that spells it.
* `Json.Value.ofText?_text` — the round trip.
-/

import LogProbe.Proofs.Json.Reader
import LogProbe.Proofs.Json.Real
import LogProbe.Proofs.Json.Spelling

namespace LogProbe.Json

/-- What is written of a value spells a document, which spells the value. -/
def IsWritten (value : Value) : Prop :=
  ∃ document, SpellsDocument document (Utf8.encode value.chars) ∧ document.Spells value

/-! ### Numbers and texts -/

theorem isWritten_number (number : Number) : IsWritten (.number number) := by
  unfold IsWritten
  rw [Value.chars]
  cases number with
  | integer value =>
    obtain ⟨numeral, spells, denotes⟩ := exists_spellsNumeral_integer value
    exact ⟨.number numeral, .number spells, .integer denotes⟩
  | real value =>
    obtain ⟨numeral, spells⟩ := exists_spellsNumeral_real value
    exact ⟨.number numeral, .number spells, .real numeral value⟩

/-- **A text comes back from its quotes.** -/
theorem exists_spellsPieces (text : String) :
    ∃ pieces word, Utf8.encode (stringChars text) = code '"' :: (word ++ [code '"']) ∧
      SpellsPieces pieces word ∧ textOf? pieces = some text := by
  obtain ⟨pieces, read, meant⟩ := readPieces?_text text.toList []
  obtain ⟨word, spells, same⟩ := readPieces?_eq_some_iff.mp read
  refine ⟨pieces, word, ?_, spells, ?_⟩
  · rw [← same]
    unfold stringChars Utf8.encode
    rw [List.cons_append, List.flatMap_cons, List.flatMap_append]
    rfl
  · unfold textOf?
    rw [meant]
    simp only [Option.bind_eq_bind, Option.bind_some, Utf8.decode?_encode, String.ofList_toList]

theorem isWritten_string (text : String) : IsWritten (.string text) := by
  obtain ⟨pieces, word, bytes, spells, meant⟩ := exists_spellsPieces text
  refine ⟨.string pieces, ?_, .string meant⟩
  rw [Value.chars, bytes]
  exact .string spells

/-! ### Arrays -/

/-- An item without white space around it. -/
def Item.bare (document : Document) (word : Bytes) : Item :=
  ⟨[], document, word, [], List.forall_mem_nil _, List.forall_mem_nil _⟩

theorem Item.bytes_bare (document : Document) (word : Bytes) :
    (Item.bare document word).bytes = word := List.append_nil word

theorem encode_itemsChars : ∀ items : List Value,
    Utf8.encode (itemsChars items) = joined (items.map fun item => Utf8.encode item.chars)
  | [] => by rw [itemsChars]; rfl
  | [item] => by rw [itemsChars, List.map_singleton, joined_singleton]
  | item :: next :: rest => by
    have others := encode_itemsChars (next :: rest)
    rw [List.map_cons] at others
    rw [itemsChars, Utf8.encode_append, List.map_cons, List.map_cons, joined_cons_cons, ← others]
    rfl

/-- **Items are written** if each of them is. -/
theorem exists_items_of_isWritten {values : List Value} (each : ∀ value ∈ values, IsWritten value) :
    ∃ items : List Item, items.map Item.bytes = values.map (fun value => Utf8.encode value.chars) ∧
      (∀ item ∈ items, SpellsDocument item.document item.word) ∧
      List.Forall₂ Document.Spells (items.map Item.document) values := by
  induction values with
  | nil => exact ⟨[], rfl, List.forall_mem_nil _, .nil⟩
  | cons value rest ih =>
    obtain ⟨⟨document, spells, spelled⟩, each⟩ := List.forall_mem_cons.mp each
    obtain ⟨items, bytes, others, spellOthers⟩ := ih each
    refine ⟨.bare document (Utf8.encode value.chars) :: items, ?_,
      List.forall_mem_cons.mpr ⟨spells, others⟩, .cons spelled spellOthers⟩
    rw [List.map_cons, List.map_cons, Item.bytes_bare, bytes]

theorem isWritten_array {values : List Value} (each : ∀ value ∈ values, IsWritten value) :
    IsWritten (.array values) := by
  have bytes : Utf8.encode (Value.array values).chars =
      code '[' :: (joined (values.map fun value => Utf8.encode value.chars) ++ [code ']']) := by
    rw [Value.chars, List.cons_append, ← List.singleton_append, Utf8.encode_append,
      Utf8.encode_append, encode_itemsChars]
    rfl
  obtain ⟨items, same, spells, spelled⟩ := exists_items_of_isWritten each
  refine ⟨.array (items.map Item.document), ?_, .array spelled⟩
  rw [bytes, ← same]
  cases items with
  | nil => exact .emptyArray (List.forall_mem_nil _)
  | cons item rest => exact .array (List.cons_ne_nil item rest) spells

/-! ### Objects -/

/-- The bytes of a field. -/
def fieldBytes (field : String × Value) : Bytes :=
  Utf8.encode (stringChars field.1) ++ code ':' :: Utf8.encode field.2.chars

theorem encode_fieldsChars : ∀ fields : List (String × Value),
    Utf8.encode (fieldsChars fields) = joined (fields.map fieldBytes)
  | [] => by rw [fieldsChars]; rfl
  | [field] => by
    rw [fieldsChars, Utf8.encode_append, List.map_singleton, joined_singleton]
    rfl
  | field :: next :: rest => by
    have others := encode_fieldsChars (next :: rest)
    rw [List.map_cons] at others
    rw [fieldsChars, Utf8.encode_append, List.map_cons, List.map_cons, joined_cons_cons, ← others,
      fieldBytes, Utf8.encode_append]
    rfl

/-- **Fields are written** if each of their values is. -/
theorem exists_members_of_isWritten {fields : List (String × Value)}
    (each : ∀ field ∈ fields, IsWritten field.2) :
    ∃ members : List Member, members.map Member.bytes = fields.map fieldBytes ∧
      (∀ member ∈ members, SpellsDocument member.value.document member.value.word) ∧
      Document.Spells (.object (members.map fun member => (member.name, member.value.document)))
        (.object fields) := by
  induction fields with
  | nil => exact ⟨[], rfl, List.forall_mem_nil _, .object .nil .nil⟩
  | cons field rest ih =>
    obtain ⟨⟨document, spells, spelled⟩, each⟩ := List.forall_mem_cons.mp each
    obtain ⟨members, bytes, others, spellOthers⟩ := ih each
    obtain ⟨pieces, word, quoted, spellsName, meant⟩ := exists_spellsPieces field.1
    refine ⟨⟨[], pieces, word, [], .bare document (Utf8.encode field.2.chars),
      ⟨List.forall_mem_nil _, List.forall_mem_nil _⟩, spellsName⟩ :: members, ?_,
      List.forall_mem_cons.mpr ⟨spells, others⟩, .cons meant spelled spellOthers⟩
    rw [List.map_cons, List.map_cons, bytes, fieldBytes, quoted, Member.bytes, Item.bytes_bare]
    simp only [List.nil_append, List.cons_append, List.append_assoc]

theorem isWritten_object {fields : List (String × Value)}
    (each : ∀ field ∈ fields, IsWritten field.2) : IsWritten (.object fields) := by
  have bytes : Utf8.encode (Value.object fields).chars =
      code '\x7b' :: (joined (fields.map fieldBytes) ++ [code '\x7d']) := by
    rw [Value.chars, List.cons_append, ← List.singleton_append, Utf8.encode_append,
      Utf8.encode_append, encode_fieldsChars]
    rfl
  obtain ⟨members, same, spells, spelled⟩ := exists_members_of_isWritten each
  refine ⟨_, ?_, spelled⟩
  rw [bytes, ← same]
  cases members with
  | nil => exact .emptyObject (List.forall_mem_nil _)
  | cons member rest => exact .object (List.cons_ne_nil member rest) spells

/-! ### Whole values -/

/-- **What is written of any value spells a document.** -/
theorem isWritten : ∀ value : Value, IsWritten value :=
  Value.induction ⟨.null, .null, .null⟩
    (fun value => by
      cases value with
      | true => exact ⟨.boolean true, .true, .boolean true⟩
      | false => exact ⟨.boolean false, .false, .boolean false⟩)
    isWritten_number isWritten_string (fun _ => isWritten_array) (fun _ => isWritten_object)

namespace Value

/-- **The text of a value is a document that spells it.** -/
theorem exists_read?_text (value : Value) :
    ∃ document, Document.read? (Utf8.bytesOf value.text) = some document ∧
      document.Spells value := by
  have bytes : Utf8.bytesOf value.text = Utf8.encode value.chars := by
    rw [Utf8.bytesOf, Value.text, String.toList_ofList]
  obtain ⟨document, spells, spelled⟩ := isWritten value
  refine ⟨document, Document.read?_eq_some_iff.mpr ?_, spelled⟩
  exact ⟨[], _, [], List.forall_mem_nil _, spells, List.forall_mem_nil _, by rw [bytes]; simp⟩

/-- **A value whose numbers are integers comes back from its text.** -/
theorem ofText?_text {value : Value} (normal : value.IsNormal depthLimit)
    (whole : value.IsWhole) : ofText? value.text = some value := by
  obtain ⟨document, read, spells⟩ := exists_read?_text value
  unfold ofText? ofBytes?
  rw [read]
  exact valueWithin?_of_spells spells normal whole

/-- An object whose one field is a text comes back from its own text. -/
theorem ofText?_field (name text : String) :
    ofText? (object [(name, string text)]).text = some (object [(name, string text)]) :=
  ofText?_text
    (.object (List.pairwise_singleton _ _) (List.forall_mem_singleton.mpr (.string text)))
    (.object (List.forall_mem_singleton.mpr (.string text)))

end Value

end LogProbe.Json
