/-
**The grammar of JSON.** A document is spelled by a word, by its digits or its pieces, or by
brackets around what it holds, with commas and white space in between. What is read from a byte
string is spelled there.

* `Json.IsGap` — the white space that may stand between the parts of a document.
* `Json.SpellsDocument`, `Json.SpellsText` — the grammar.
* `Json.exists_items_of_readItems?`, `Json.exists_members_of_readMembers?` — items and members.
* `Json.readsSpelled` — what is read is spelled.
-/

import LogProbe.Proofs.Json.Token

namespace LogProbe.Json

/-! ### White space -/

/-- White space between the parts of a document: spaces, tabs, line feeds and carriage returns. -/
def IsGap (gap : Bytes) : Prop := ∀ byte ∈ gap, byte ∈ [0x20, 0x09, 0x0A, 0x0D]

theorem isBlank_iff {byte : UInt8} : isBlank byte = true ↔ byte ∈ [0x20, 0x09, 0x0A, 0x0D] := by
  simp [isBlank, or_assoc]

/-- The white space in front of a byte string is skipped, as far as it goes. -/
theorem exists_eq_append_skipBlanks (bytes : Bytes) :
    ∃ gap, IsGap gap ∧ bytes = gap ++ skipBlanks bytes :=
  ⟨bytes.takeWhile isBlank,
    fun _ member => isBlank_iff.mp (List.all_eq_true.mp List.all_takeWhile _ member),
    List.takeWhile_append_dropWhile.symm⟩

theorem skipBlanks_append {gap : Bytes} (isGap : IsGap gap) (rest : Bytes) :
    skipBlanks (gap ++ rest) = skipBlanks rest :=
  List.dropWhile_append_of_pos fun byte member => isBlank_iff.mpr (isGap byte member)

theorem skipBlanks_cons {byte : UInt8} (solid : isBlank byte = false) (rest : Bytes) :
    skipBlanks (byte :: rest) = byte :: rest := by
  unfold skipBlanks
  rw [List.dropWhile_cons, solid]
  rfl

/-- White space in front of a byte that is none is skipped up to that byte. -/
theorem skipBlanks_append_cons {gap : Bytes} (isGap : IsGap gap) {byte : UInt8}
    (solid : isBlank byte = false) (rest : Bytes) :
    skipBlanks (gap ++ byte :: rest) = byte :: rest := by
  rw [skipBlanks_append isGap, skipBlanks_cons solid]

/-- Nothing is left of a byte string of white space, and of no other. -/
theorem skipBlanks_eq_nil_iff {bytes : Bytes} : skipBlanks bytes = [] ↔ IsGap bytes := by
  constructor
  · intro nothing
    obtain ⟨gap, isGap, split⟩ := exists_eq_append_skipBlanks bytes
    rwa [split, nothing, List.append_nil]
  · intro isGap
    have whole := skipBlanks_append isGap []
    rwa [List.append_nil] at whole

/-! ### The grammar -/

/-- A document as it stands somewhere: its own bytes, and the white space in front and behind. -/
structure Item where
  front : Bytes
  document : Document
  word : Bytes
  back : Bytes
  gaps : IsGap front ∧ IsGap back

def Item.bytes (item : Item) : Bytes := item.front ++ (item.word ++ item.back)

/-- A member of an object as it stands there: its name between quotes, a colon behind white space,
and its value. -/
structure Member where
  front : Bytes
  name : List Piece
  nameWord : Bytes
  middle : Bytes
  value : Item
  gaps : IsGap front ∧ IsGap middle
  spells : SpellsPieces name nameWord

def Member.bytes (member : Member) : Bytes :=
  member.front ++ code '"' ::
    (member.nameWord ++ code '"' :: (member.middle ++ code ':' :: member.value.bytes))

/-- Parts with commas between them. -/
def joined (parts : List Bytes) : Bytes := [code ','].intercalate parts

/-- How a document is spelled. -/
inductive SpellsDocument : Document → Bytes → Prop
  | null : SpellsDocument .null ("null".toList.map code)
  | true : SpellsDocument (.boolean true) ("true".toList.map code)
  | false : SpellsDocument (.boolean false) ("false".toList.map code)
  | number {numeral : Numeral} {word : Bytes} (spells : SpellsNumeral numeral word) :
      SpellsDocument (.number numeral) word
  | string {pieces : List Piece} {word : Bytes} (spells : SpellsPieces pieces word) :
      SpellsDocument (.string pieces) (code '"' :: (word ++ [code '"']))
  | emptyArray {gap : Bytes} (isGap : IsGap gap) :
      SpellsDocument (.array []) (code '[' :: (gap ++ [code ']']))
  | array {items : List Item} (nonempty : items ≠ [])
      (each : ∀ item ∈ items, SpellsDocument item.document item.word) :
      SpellsDocument (.array (items.map Item.document))
        (code '[' :: (joined (items.map Item.bytes) ++ [code ']']))
  | emptyObject {gap : Bytes} (isGap : IsGap gap) :
      SpellsDocument (.object []) (code '\x7b' :: (gap ++ [code '\x7d']))
  | object {members : List Member} (nonempty : members ≠ [])
      (each : ∀ member ∈ members, SpellsDocument member.value.document member.value.word) :
      SpellsDocument (.object (members.map fun member => (member.name, member.value.document)))
        (code '\x7b' :: (joined (members.map Member.bytes) ++ [code '\x7d']))

/-- The byte strings of a document with white space in front and behind. -/
def SpellsText (document : Document) (bytes : Bytes) : Prop :=
  ∃ front word back, IsGap front ∧ SpellsDocument document word ∧ IsGap back ∧
    bytes = front ++ (word ++ back)

theorem joined_singleton (part : Bytes) : joined [part] = part := List.intercalate_singleton

theorem joined_cons_cons (part next : Bytes) (rest : List Bytes) :
    joined (part :: next :: rest) = part ++ code ',' :: joined (next :: rest) := by
  unfold joined
  rw [List.intercalate_cons_cons, List.append_assoc]
  rfl

/-! ### White space in front -/

section

variable {gap : Bytes} (isGap : IsGap gap) (fuel : Nat) (bytes : Bytes)

include isGap

theorem readDocument?_gap : readDocument? fuel (gap ++ bytes) = readDocument? fuel bytes := by
  cases fuel with
  | zero => rfl
  | succ fuel => rw [readDocument?, readDocument?, skipBlanks_append isGap]

theorem readItems?_gap : readItems? fuel (gap ++ bytes) = readItems? fuel bytes := by
  cases fuel with
  | zero => rfl
  | succ fuel => rw [readItems?, readItems?, readDocument?_gap isGap]

theorem readMembers?_gap : readMembers? fuel (gap ++ bytes) = readMembers? fuel bytes := by
  cases fuel with
  | zero => rfl
  | succ fuel => rw [readMembers?, readMembers?, skipBlanks_append isGap]

end

/-! ### What is read is spelled -/

theorem dropWord?_eq_some {word : String} {bytes rest : Bytes}
    (dropped : dropWord? word bytes = some rest) : bytes = word.toList.map code ++ rest := by
  simp only [dropWord?] at dropped
  split at dropped
  · rename_i begins
    obtain ⟨tail, rfl⟩ := List.isPrefixOf_iff_prefix.mp begins
    rw [List.drop_left] at dropped
    cases dropped
    rfl
  · cases dropped

/-- With so much fuel, documents are read only from what spells them. -/
def ReadsSpelled (fuel : Nat) : Prop :=
  ∀ {bytes rest : Bytes} {document : Document},
    readDocument? fuel bytes = some (document, rest) →
    ∃ front word, IsGap front ∧ SpellsDocument document word ∧ bytes = front ++ (word ++ rest)

/-- A document that is read in front of a mark, with the white space around it. -/
theorem exists_item {fuel : Nat} (sound : ReadsSpelled fuel) {bytes rest after : Bytes}
    {document : Document} {mark : UInt8} (read : readDocument? fuel bytes = some (document, rest))
    (marked : skipBlanks rest = mark :: after) :
    ∃ item : Item, item.document = document ∧ SpellsDocument item.document item.word ∧
      bytes = item.bytes ++ mark :: after := by
  obtain ⟨front, word, frontGap, spells, rfl⟩ := sound read
  obtain ⟨back, backGap, split⟩ := exists_eq_append_skipBlanks rest
  refine ⟨⟨front, document, word, back, frontGap, backGap⟩, rfl, spells, ?_⟩
  rw [split, marked]
  simp only [Item.bytes, List.append_assoc]

/-- The items that are read are spelled up to the closing bracket. -/
theorem exists_items_of_readItems? {fuel : Nat} (sound : ∀ less < fuel, ReadsSpelled less)
    {bytes rest : Bytes} {documents : List Document}
    (read : readItems? fuel bytes = some (documents, rest)) :
    ∃ items : List Item, items ≠ [] ∧ documents = items.map Item.document ∧
      (∀ item ∈ items, SpellsDocument item.document item.word) ∧
      bytes = joined (items.map Item.bytes) ++ code ']' :: rest := by
  induction fuel generalizing bytes rest documents with
  | zero => cases read
  | succ fuel ih =>
    obtain ⟨⟨document, behind⟩, found, read⟩ := Option.bind_eq_some_iff.mp read
    simp only at read
    split at read
    · cases read
    rename_i mark after marked
    obtain ⟨item, rfl, spells, split⟩ :=
      exists_item (sound fuel (Nat.lt_succ_self fuel)) found marked
    split at read
    · rename_i comma
      obtain ⟨⟨others, left⟩, readOthers, made⟩ := Option.bind_eq_some_iff.mp read
      cases made
      obtain ⟨items, nonempty, rfl, each, later⟩ :=
        ih (fun less small => sound less (Nat.lt_succ_of_lt small)) readOthers
      obtain ⟨next, rest, rfl⟩ := List.exists_cons_of_ne_nil nonempty
      refine ⟨item :: next :: rest, List.cons_ne_nil _ _, rfl,
        List.forall_mem_cons.mpr ⟨spells, each⟩, ?_⟩
      rw [split, comma, later]
      simp only [List.map_cons, joined_cons_cons, List.append_assoc, List.cons_append]
    split at read
    · rename_i bracket
      cases read
      refine ⟨[item], List.cons_ne_nil _ _, rfl, List.forall_mem_singleton.mpr spells, ?_⟩
      rw [split, bracket, List.map_singleton, joined_singleton]
    · cases read

/-- The members that are read are spelled up to the closing brace. -/
theorem exists_members_of_readMembers? {fuel : Nat} (sound : ∀ less < fuel, ReadsSpelled less)
    {bytes rest : Bytes} {fields : List (List Piece × Document)}
    (read : readMembers? fuel bytes = some (fields, rest)) :
    ∃ members : List Member, members ≠ [] ∧
      fields = members.map (fun member => (member.name, member.value.document)) ∧
      (∀ member ∈ members, SpellsDocument member.value.document member.value.word) ∧
      bytes = joined (members.map Member.bytes) ++ code '\x7d' :: rest := by
  induction fuel generalizing bytes rest fields with
  | zero => cases read
  | succ fuel ih =>
    obtain ⟨front, frontGap, inFront⟩ := exists_eq_append_skipBlanks bytes
    rw [readMembers?] at read
    split at read
    · cases read
    rename_i quote behind quoted
    split at read
    case isFalse => cases read
    rename_i isQuote
    obtain ⟨⟨name, behindName⟩, readName, read⟩ := Option.bind_eq_some_iff.mp read
    obtain ⟨nameWord, spellsName, named⟩ := readPieces?_eq_some_iff.mp readName
    obtain ⟨middle, middleGap, between⟩ := exists_eq_append_skipBlanks behindName
    simp only at read
    split at read
    · cases read
    rename_i colon behindColon separated
    split at read
    case isFalse => cases read
    rename_i isColon
    obtain ⟨⟨document, behindValue⟩, found, read⟩ := Option.bind_eq_some_iff.mp read
    simp only at read
    split at read
    · cases read
    rename_i mark after marked
    obtain ⟨value, rfl, spells, split⟩ :=
      exists_item (sound fuel (Nat.lt_succ_self fuel)) found marked
    -- the member as it stands, up to the mark behind it
    let member : Member :=
      ⟨front, name, nameWord, middle, value, ⟨frontGap, middleGap⟩, spellsName⟩
    have stands : bytes = member.bytes ++ mark :: after := by
      rw [inFront, quoted, isQuote, named, between, separated, isColon, split]
      simp only [member, Member.bytes, List.append_assoc, List.cons_append]
    split at read
    · rename_i comma
      obtain ⟨⟨others, left⟩, readOthers, made⟩ := Option.bind_eq_some_iff.mp read
      cases made
      obtain ⟨members, nonempty, rfl, each, later⟩ :=
        ih (fun less small => sound less (Nat.lt_succ_of_lt small)) readOthers
      obtain ⟨next, rest, rfl⟩ := List.exists_cons_of_ne_nil nonempty
      refine ⟨member :: next :: rest, List.cons_ne_nil _ _, rfl,
        List.forall_mem_cons.mpr ⟨spells, each⟩, ?_⟩
      rw [stands, comma, later]
      simp only [List.map_cons, joined_cons_cons, List.append_assoc, List.cons_append]
    split at read
    · rename_i brace
      cases read
      refine ⟨[member], List.cons_ne_nil _ _, rfl, List.forall_mem_singleton.mpr spells, ?_⟩
      rw [stands, brace, List.map_singleton, joined_singleton]
    · cases read

/-- What is read with one unit of fuel more is spelled, if what is read inside it is. -/
theorem readsSpelled_succ {fuel : Nat} (sound : ∀ less < fuel, ReadsSpelled less) :
    ReadsSpelled (fuel + 1) := by
  intro bytes rest document read
  obtain ⟨front, isGap, split⟩ := exists_eq_append_skipBlanks bytes
  suffices spelled : ∃ word, SpellsDocument document word ∧ skipBlanks bytes = word ++ rest by
    obtain ⟨word, spells, same⟩ := spelled
    exact ⟨front, word, isGap, spells, by rw [← same, ← split]⟩
  rw [readDocument?] at read
  split at read
  · cases read
  rename_i first after begins
  rw [begins]
  split at read
  · rename_i quote
    obtain ⟨⟨pieces, left⟩, found, made⟩ := Option.bind_eq_some_iff.mp read
    cases made
    obtain ⟨word, spells, rfl⟩ := readPieces?_eq_some_iff.mp found
    exact ⟨_, .string spells, by rw [quote]; simp⟩
  split at read
  · rename_i bracket
    obtain ⟨gap, isGap, inside⟩ := exists_eq_append_skipBlanks after
    split at read
    · cases read
    rename_i next behind closes
    rw [closes] at inside
    split at read
    · rename_i closing
      cases read
      exact ⟨_, .emptyArray isGap, by rw [bracket, inside, closing]; simp⟩
    · obtain ⟨⟨documents, left⟩, found, made⟩ := Option.bind_eq_some_iff.mp read
      cases made
      rw [← readItems?_gap isGap, ← inside] at found
      obtain ⟨items, nonempty, rfl, each, rfl⟩ := exists_items_of_readItems? sound found
      exact ⟨_, .array nonempty each, by rw [bracket]; simp⟩
  split at read
  · rename_i brace
    obtain ⟨gap, isGap, inside⟩ := exists_eq_append_skipBlanks after
    split at read
    · cases read
    rename_i next behind closes
    rw [closes] at inside
    split at read
    · rename_i closing
      cases read
      exact ⟨_, .emptyObject isGap, by rw [brace, inside, closing]; simp⟩
    · obtain ⟨⟨fields, left⟩, found, made⟩ := Option.bind_eq_some_iff.mp read
      cases made
      rw [← readMembers?_gap isGap, ← inside] at found
      obtain ⟨members, nonempty, rfl, each, rfl⟩ := exists_members_of_readMembers? sound found
      exact ⟨_, .object nonempty each, by rw [brace]; simp⟩
  split at read
  · rename_i minus
    obtain ⟨⟨numeral, left⟩, found, made⟩ := Option.bind_eq_some_iff.mp read
    cases made
    obtain ⟨word, spells, negative, rfl⟩ := exists_of_readUnsigned? found
    exact ⟨_, .number ⟨word, spells, rfl⟩, by rw [minus, negative]; rfl⟩
  split at read
  · obtain ⟨⟨numeral, left⟩, found, made⟩ := Option.bind_eq_some_iff.mp read
    cases made
    obtain ⟨word, spells, positive, split⟩ := exists_of_readUnsigned? found
    exact ⟨_, .number ⟨word, spells, rfl⟩, by rw [split, positive]; rfl⟩
  split at read
  · rename_i letter
    obtain ⟨left, dropped, made⟩ := Option.bind_eq_some_iff.mp read
    cases made
    exact ⟨_, .null, by rw [dropWord?_eq_some dropped, letter]; rfl⟩
  split at read
  · rename_i letter
    obtain ⟨left, dropped, made⟩ := Option.bind_eq_some_iff.mp read
    cases made
    exact ⟨_, .true, by rw [dropWord?_eq_some dropped, letter]; rfl⟩
  split at read
  · rename_i letter
    obtain ⟨left, dropped, made⟩ := Option.bind_eq_some_iff.mp read
    cases made
    exact ⟨_, .false, by rw [dropWord?_eq_some dropped, letter]; rfl⟩
  · cases read

/-- **What is read is spelled**, by induction on the fuel. -/
theorem readsSpelled (fuel : Nat) : ReadsSpelled fuel := by
  induction fuel using Nat.strongRecOn with
  | ind fuel ih =>
    cases fuel with
    | zero =>
      intro bytes rest document read
      cases read
    | succ fuel => exact readsSpelled_succ fun less small => ih less (Nat.lt_succ_of_lt small)

end LogProbe.Json
