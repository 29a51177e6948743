/-
**Reading follows the grammar.** Whatever the grammar spells is read, from in front of anything that
does not go on with a number, so that reading a byte string finds a document exactly if the byte
string spells it, with white space in front and behind and nothing else.

* `Json.IsRead` — a word is read as a document.
* `Json.readItems?_joined`, `Json.readMembers?_joined` — items and members are read if each of them
  is.
* `Json.SpellsDocument.isRead` — what is spelled is read.
* `Json.Document.read?_eq_some_iff` — the documents of a byte string.
-/

import LogProbe.Proofs.Json.Grammar

namespace LogProbe.Json

/-! ### What is spelled is read -/

/-- Nothing follows, or one of the marks that end a value inside an array or object. -/
def Stops (rest : Bytes) : Prop :=
  ∀ byte ∈ rest.head?, byte = code ',' ∨ byte = code ']' ∨ byte = code '\x7d'

/-- What stops a value does not go on with a number. -/
theorem Stops.endsNumber {rest : Bytes} (stops : Stops rest) : EndsNumber rest := by
  intro byte member
  rcases stops byte member with rfl | rfl | rfl <;> decide

/-- A word begins like a document, and is read as it from in front of whatever does not go on with
a number. The fuel is what is left of two for each byte. -/
structure IsRead (document : Document) (word : Bytes) : Prop where
  head : ∃ byte rest, word = byte :: rest ∧ isBlank byte = false ∧ byte ≠ code ']'
  read : ∀ fuel : Nat, 2 * word.length ≤ fuel + 2 → ∀ {rest : Bytes}, EndsNumber rest →
    readDocument? (fuel + 1) (word ++ rest) = some (document, rest)

theorem IsRead.length_pos {document : Document} {word : Bytes} (isRead : IsRead document word) :
    0 < word.length := by
  obtain ⟨byte, rest, rfl, -⟩ := isRead.head
  exact Nat.succ_pos _

/-- White space does not go on with a number, and neither does a mark behind it. -/
theorem endsNumber_of_gap {gap rest : Bytes} (isGap : IsGap gap) (stops : Stops rest) :
    EndsNumber (gap ++ rest) := by
  cases gap with
  | nil => exact stops.endsNumber
  | cons byte gap =>
    intro first member
    cases member
    have blank := isGap byte List.mem_cons_self
    simp only [List.mem_cons, List.not_mem_nil, or_false] at blank
    rcases blank with rfl | rfl | rfl | rfl <;> decide

/-- An item is read up to the mark behind it. -/
theorem IsRead.readItem {item : Item} (isRead : IsRead item.document item.word) {fuel : Nat}
    (enough : 2 * item.word.length ≤ fuel + 2) {rest : Bytes} (stops : Stops rest) :
    readDocument? (fuel + 1) (item.bytes ++ rest) = some (item.document, item.back ++ rest) := by
  have bytes : item.bytes ++ rest = item.front ++ (item.word ++ (item.back ++ rest)) := by
    simp only [Item.bytes, List.append_assoc]
  rw [bytes, readDocument?_gap item.gaps.1]
  exact isRead.read fuel enough (endsNumber_of_gap item.gaps.2 stops)

theorem Item.length_bytes (item : Item) :
    item.bytes.length = item.front.length + (item.word.length + item.back.length) := by
  rw [Item.bytes, List.length_append, List.length_append]

theorem Member.length_value_word (member : Member) :
    member.value.word.length < member.bytes.length := by
  have size := member.value.length_bytes
  simp only [Member.bytes, List.length_append, List.length_cons]
  omega

theorem stops_cons {mark : UInt8} (isMark : mark = code ',' ∨ mark = code ']' ∨ mark = code '\x7d')
    (rest : Bytes) : Stops (mark :: rest) := by
  intro byte member
  cases member
  exact isMark

/-- White space up to a mark is skipped. -/
theorem skipBlanks_mark {gap : Bytes} (isGap : IsGap gap) {mark : UInt8}
    (isMark : mark = code ',' ∨ mark = code ']' ∨ mark = code '\x7d') (rest : Bytes) :
    skipBlanks (gap ++ mark :: rest) = mark :: rest := by
  refine skipBlanks_append_cons isGap ?_ rest
  rcases isMark with rfl | rfl | rfl <;> decide

section

variable {less : Nat} {mark : UInt8}
  (isMark : mark = code ',' ∨ mark = code ']' ∨ mark = code '\x7d') (after : Bytes)

include isMark

/-- The first item, and what its mark tells. One unit of fuel enters the items and one the
document. -/
theorem readItems?_item {item : Item} (isRead : IsRead item.document item.word)
    (enough : 2 * item.word.length ≤ less + 2) :
    readItems? (less + 2) (item.bytes ++ mark :: after) =
      if mark = code ',' then
        (readItems? (less + 1) after).map fun read => (item.document :: read.1, read.2)
      else if mark = code ']' then some ([item.document], after)
      else none := by
  rw [readItems?, isRead.readItem enough (stops_cons isMark after)]
  simp only [Option.bind_eq_bind, Option.bind_some, skipBlanks_mark item.gaps.2 isMark]
  cases readItems? (less + 1) after <;> rfl

/-- The first member, and what its mark tells. -/
theorem readMembers?_member {member : Member}
    (isRead : IsRead member.value.document member.value.word)
    (enough : 2 * member.value.word.length ≤ less + 2) :
    readMembers? (less + 2) (member.bytes ++ mark :: after) =
      if mark = code ',' then
        (readMembers? (less + 1) after).map fun read =>
          ((member.name, member.value.document) :: read.1, read.2)
      else if mark = code '\x7d' then some ([(member.name, member.value.document)], after)
      else none := by
  have bytes : member.bytes ++ mark :: after = member.front ++ code '"' :: (member.nameWord ++
      code '"' :: (member.middle ++ code ':' :: (member.value.bytes ++ mark :: after))) := by
    simp only [Member.bytes, List.append_assoc, List.cons_append]
  have readName := readPieces?_eq_some_iff.mpr
    ⟨member.nameWord, member.spells, Eq.refl (member.nameWord ++
      code '"' :: (member.middle ++ code ':' :: (member.value.bytes ++ mark :: after)))⟩
  rw [bytes, readMembers?, skipBlanks_append_cons member.gaps.1 (by decide)]
  simp only [if_true, readName, Option.bind_eq_bind, Option.bind_some,
    skipBlanks_append_cons member.gaps.2 (show isBlank (code ':') = false by decide),
    isRead.readItem enough (stops_cons isMark after), skipBlanks_mark member.value.gaps.2 isMark]
  cases readMembers? (less + 1) after <;> rfl

end

/-- **Items are read** up to the closing bracket, if each of them is. -/
theorem readItems?_joined (rest : Bytes) {items : List Item} (nonempty : items ≠ [])
    (each : ∀ item ∈ items, IsRead item.document item.word) (fuel : Nat)
    (enough : 2 * (joined (items.map Item.bytes)).length ≤ fuel) :
    readItems? fuel (joined (items.map Item.bytes) ++ code ']' :: rest) =
      some (items.map Item.document, rest) := by
  induction items generalizing fuel with
  | nil => exact absurd rfl nonempty
  | cons item others ih =>
    obtain ⟨first, each⟩ := List.forall_mem_cons.mp each
    have positive := first.length_pos
    have size := item.length_bytes
    cases others with
    | nil =>
      rw [List.map_singleton, joined_singleton] at enough ⊢
      obtain ⟨less, rfl⟩ : ∃ less, fuel = less + 2 := ⟨fuel - 2, by omega⟩
      rw [readItems?_item (.inr (.inl rfl)) rest first (by omega), if_neg (by decide), if_pos rfl,
        List.map_singleton]
    | cons next others =>
      rw [List.map_cons, List.map_cons, joined_cons_cons, ← List.map_cons] at enough ⊢
      rw [List.length_append, List.length_cons] at enough
      obtain ⟨less, rfl⟩ : ∃ less, fuel = less + 2 := ⟨fuel - 2, by omega⟩
      rw [List.append_assoc, List.cons_append, readItems?_item (.inl rfl) _ first (by omega),
        if_pos rfl, ih (List.cons_ne_nil next others) each (less + 1) (by omega)]
      rfl

/-- **Members are read** up to the closing brace, if each of their values is. -/
theorem readMembers?_joined (rest : Bytes) {members : List Member} (nonempty : members ≠ [])
    (each : ∀ member ∈ members, IsRead member.value.document member.value.word) (fuel : Nat)
    (enough : 2 * (joined (members.map Member.bytes)).length ≤ fuel) :
    readMembers? fuel (joined (members.map Member.bytes) ++ code '\x7d' :: rest) =
      some (members.map (fun member => (member.name, member.value.document)), rest) := by
  induction members generalizing fuel with
  | nil => exact absurd rfl nonempty
  | cons member others ih =>
    obtain ⟨first, each⟩ := List.forall_mem_cons.mp each
    have positive := first.length_pos
    have size := member.length_value_word
    cases others with
    | nil =>
      rw [List.map_singleton, joined_singleton] at enough ⊢
      obtain ⟨less, rfl⟩ : ∃ less, fuel = less + 2 := ⟨fuel - 2, by omega⟩
      rw [readMembers?_member (.inr (.inr rfl)) rest first (by omega), if_neg (by decide),
        if_pos rfl, List.map_singleton]
    | cons next others =>
      rw [List.map_cons, List.map_cons, joined_cons_cons, ← List.map_cons] at enough ⊢
      rw [List.length_append, List.length_cons] at enough
      obtain ⟨less, rfl⟩ : ∃ less, fuel = less + 2 := ⟨fuel - 2, by omega⟩
      rw [List.append_assoc, List.cons_append, readMembers?_member (.inl rfl) _ first (by omega),
        if_pos rfl, ih (List.cons_ne_nil next others) each (less + 1) (by omega)]
      rfl

/-! ### Words and numbers -/

theorem dropWord?_append (word : String) (rest : Bytes) :
    dropWord? word (word.toList.map code ++ rest) = some rest := by
  have begins : (word.toList.map code).isPrefixOf (word.toList.map code ++ rest) = true :=
    List.isPrefixOf_iff_prefix.mpr (List.prefix_append _ _)
  unfold dropWord?
  simp only [begins, if_true, List.drop_left]

/-- The word `null` is read as it stands. -/
theorem readDocument?_null (fuel : Nat) (rest : Bytes) :
    readDocument? (fuel + 1) ("null".toList.map code ++ rest) = some (.null, rest) := by
  have bytes : "null".toList.map code ++ rest = code 'n' :: ("ull".toList.map code ++ rest) := rfl
  rw [bytes, readDocument?, skipBlanks_cons (by decide)]
  simp only [show code 'n' ≠ code '"' by decide, show code 'n' ≠ code '[' by decide,
    show code 'n' ≠ code '\x7b' by decide, show code 'n' ≠ code '-' by decide,
    show isDigit (code 'n') = false by decide, dropWord?_append]
  rfl

/-- The word `true` is read as it stands. -/
theorem readDocument?_true (fuel : Nat) (rest : Bytes) :
    readDocument? (fuel + 1) ("true".toList.map code ++ rest) = some (.boolean true, rest) := by
  have bytes : "true".toList.map code ++ rest = code 't' :: ("rue".toList.map code ++ rest) := rfl
  rw [bytes, readDocument?, skipBlanks_cons (by decide)]
  simp only [show code 't' ≠ code '"' by decide, show code 't' ≠ code '[' by decide,
    show code 't' ≠ code '\x7b' by decide, show code 't' ≠ code '-' by decide,
    show isDigit (code 't') = false by decide, show code 't' ≠ code 'n' by decide,
    dropWord?_append]
  rfl

/-- The word `false` is read as it stands. -/
theorem readDocument?_false (fuel : Nat) (rest : Bytes) :
    readDocument? (fuel + 1) ("false".toList.map code ++ rest) = some (.boolean false, rest) := by
  have bytes : "false".toList.map code ++ rest =
      code 'f' :: ("alse".toList.map code ++ rest) := rfl
  rw [bytes, readDocument?, skipBlanks_cons (by decide)]
  simp only [show code 'f' ≠ code '"' by decide, show code 'f' ≠ code '[' by decide,
    show code 'f' ≠ code '\x7b' by decide, show code 'f' ≠ code '-' by decide,
    show isDigit (code 'f') = false by decide, show code 'f' ≠ code 'n' by decide,
    show code 'f' ≠ code 't' by decide, dropWord?_append]
  rfl

/-- No other document begins with a digit. -/
theorem marks_of_isDigit {byte : UInt8} (digit : isDigit byte = true) :
    isBlank byte = false ∧ byte ≠ code '"' ∧ byte ≠ code '[' ∧ byte ≠ code ']' ∧
      byte ≠ code '\x7b' ∧ byte ≠ code '-' := by
  refine ⟨?_, ?_, ?_, ?_, ?_, ?_⟩
  · unfold isDigit at digit
    simp only [UInt8.le_iff_toNat_le, Bool.and_eq_true, decide_eq_true_eq] at digit
    have low : 48 ≤ byte.toNat := digit.1
    unfold isBlank
    simp only [Bool.or_eq_false_iff, beq_eq_false_iff_ne, ne_eq, ← UInt8.toNat_inj]
    refine ⟨⟨⟨?_, ?_⟩, ?_⟩, ?_⟩ <;> intro same <;> rw [same] at low <;> exact absurd low (by decide)
  all_goals
    rintro rfl
    exact absurd digit (by decide)

/-- **A number is read behind its sign**, from its first digit on. -/
theorem readDocument?_number (fuel : Nat) {negative : Bool} {numeral : Numeral} {byte : UInt8}
    {after rest : Bytes} (digit : isDigit byte = true)
    (read : readUnsigned? negative (byte :: after) = some (numeral, rest)) :
    readDocument? (fuel + 1) ((if negative then [code '-'] else []) ++ byte :: after) =
      some (.number numeral, rest) := by
  cases negative with
  | true =>
    have marks : code '-' ≠ code '"' ∧ code '-' ≠ code '[' ∧ code '-' ≠ code '\x7b' := by decide
    rw [if_pos rfl, List.singleton_append, readDocument?, skipBlanks_cons (by decide)]
    simp only [if_neg marks.1, if_neg marks.2.1, if_neg marks.2.2, if_true, read]
    rfl
  | false =>
    obtain ⟨solid, noQuote, noBracket, -, noBrace, noMinus⟩ := marks_of_isDigit digit
    rw [if_neg Bool.false_ne_true, List.nil_append, readDocument?, skipBlanks_cons solid]
    simp only [if_neg noQuote, if_neg noBracket, if_neg noBrace, if_neg noMinus, digit, if_true,
      read]
    rfl

/-! ### Each kind of document -/

theorem isRead_number {numeral : Numeral} {word : Bytes} (spells : SpellsNumeral numeral word) :
    IsRead (.number numeral) word := by
  obtain ⟨unsigned, spells, rfl⟩ := spells
  obtain ⟨digit, others, rfl, isDigit⟩ := spells.exists_eq_cons
  refine ⟨?_, fun fuel _ rest ends => ?_⟩
  · split
    · exact ⟨code '-', _, rfl, by decide, by decide⟩
    · obtain ⟨solid, -, -, notEnd, -⟩ := marks_of_isDigit isDigit
      exact ⟨digit, others, rfl, solid, notEnd⟩
  · rw [List.append_assoc]
    exact readDocument?_number fuel isDigit (spells.readUnsigned? ends)

theorem isRead_string {pieces : List Piece} {word : Bytes} (spells : SpellsPieces pieces word) :
    IsRead (.string pieces) (code '"' :: (word ++ [code '"'])) := by
  refine ⟨⟨code '"', _, rfl, by decide, by decide⟩, fun fuel _ rest _ => ?_⟩
  have read := readPieces?_eq_some_iff.mpr ⟨word, spells, Eq.refl (word ++ code '"' :: rest)⟩
  rw [List.cons_append, List.append_assoc, List.singleton_append, readDocument?,
    skipBlanks_cons (by decide)]
  simp only [if_true, read]
  rfl

theorem isRead_emptyArray {gap : Bytes} (isGap : IsGap gap) :
    IsRead (.array []) (code '[' :: (gap ++ [code ']'])) := by
  refine ⟨⟨code '[', _, rfl, by decide, by decide⟩, fun fuel _ rest _ => ?_⟩
  rw [List.cons_append, List.append_assoc, List.singleton_append, readDocument?,
    skipBlanks_cons (by decide)]
  simp only [show code '[' ≠ code '"' by decide, if_true, if_false,
    skipBlanks_append_cons isGap (show isBlank (code ']') = false by decide)]

theorem isRead_emptyObject {gap : Bytes} (isGap : IsGap gap) :
    IsRead (.object []) (code '\x7b' :: (gap ++ [code '\x7d'])) := by
  refine ⟨⟨code '\x7b', _, rfl, by decide, by decide⟩, fun fuel _ rest _ => ?_⟩
  rw [List.cons_append, List.append_assoc, List.singleton_append, readDocument?,
    skipBlanks_cons (by decide)]
  simp only [show code '\x7b' ≠ code '"' by decide, show code '\x7b' ≠ code '[' by decide,
    if_true, if_false, skipBlanks_append_cons isGap (show isBlank (code '\x7d') = false by decide)]

/-- Parts begin with the first of them. -/
theorem exists_joined_eq_append {α : Type} (bytes : α → Bytes) (part : α) (rest : List α) :
    ∃ after, joined ((part :: rest).map bytes) = bytes part ++ after := by
  cases rest with
  | nil => exact ⟨[], by rw [List.map_singleton, joined_singleton, List.append_nil]⟩
  | cons next rest => exact ⟨_, joined_cons_cons (bytes part) (bytes next) (rest.map bytes)⟩

theorem isRead_array {items : List Item} (nonempty : items ≠ [])
    (each : ∀ item ∈ items, IsRead item.document item.word) :
    IsRead (.array (items.map Item.document))
      (code '[' :: (joined (items.map Item.bytes) ++ [code ']'])) := by
  refine ⟨⟨code '[', _, rfl, by decide, by decide⟩, fun fuel enough rest _ => ?_⟩
  rw [List.length_cons, List.length_append, List.length_singleton] at enough
  have read := readItems?_joined rest nonempty each fuel (by omega)
  -- the first item begins with a byte that does not close the array
  obtain ⟨item, others, rfl⟩ := List.exists_cons_of_ne_nil nonempty
  obtain ⟨byte, left, begins, solid, notEnd⟩ := (each item List.mem_cons_self).head
  obtain ⟨after, split⟩ := exists_joined_eq_append Item.bytes item others
  rw [split, Item.bytes, begins] at read ⊢
  simp only [List.append_assoc, List.cons_append, List.nil_append] at read ⊢
  rw [readItems?_gap item.gaps.1] at read
  rw [readDocument?, skipBlanks_cons (by decide)]
  simp only [show code '[' ≠ code '"' by decide, if_true, if_false,
    skipBlanks_append_cons item.gaps.1 solid, if_neg notEnd, read]
  rfl

theorem isRead_object {members : List Member} (nonempty : members ≠ [])
    (each : ∀ member ∈ members, IsRead member.value.document member.value.word) :
    IsRead (.object (members.map fun member => (member.name, member.value.document)))
      (code '\x7b' :: (joined (members.map Member.bytes) ++ [code '\x7d'])) := by
  refine ⟨⟨code '\x7b', _, rfl, by decide, by decide⟩, fun fuel enough rest _ => ?_⟩
  rw [List.length_cons, List.length_append, List.length_singleton] at enough
  have read := readMembers?_joined rest nonempty each fuel (by omega)
  obtain ⟨member, others, rfl⟩ := List.exists_cons_of_ne_nil nonempty
  obtain ⟨after, split⟩ := exists_joined_eq_append Member.bytes member others
  rw [split, Member.bytes] at read ⊢
  simp only [List.append_assoc, List.cons_append, List.nil_append] at read ⊢
  rw [readMembers?_gap member.gaps.1] at read
  rw [readDocument?, skipBlanks_cons (by decide)]
  simp only [show code '\x7b' ≠ code '"' by decide, show code '\x7b' ≠ code '[' by decide, if_true,
    if_false, skipBlanks_append_cons member.gaps.1 (show isBlank (code '"') = false by decide),
    show code '"' ≠ code '\x7d' by decide, read]
  rfl

/-- **What is spelled is read**, by induction on how it is spelled. -/
theorem SpellsDocument.isRead {document : Document} {word : Bytes}
    (spells : SpellsDocument document word) : IsRead document word := by
  induction spells with
  | null => exact ⟨⟨code 'n', _, rfl, by decide, by decide⟩,
      fun fuel _ rest _ => readDocument?_null fuel rest⟩
  | true => exact ⟨⟨code 't', _, rfl, by decide, by decide⟩,
      fun fuel _ rest _ => readDocument?_true fuel rest⟩
  | false => exact ⟨⟨code 'f', _, rfl, by decide, by decide⟩,
      fun fuel _ rest _ => readDocument?_false fuel rest⟩
  | number spells => exact isRead_number spells
  | string spells => exact isRead_string spells
  | emptyArray isGap => exact isRead_emptyArray isGap
  | array nonempty _ ih => exact isRead_array nonempty ih
  | emptyObject isGap => exact isRead_emptyObject isGap
  | object nonempty _ ih => exact isRead_object nonempty ih

/-! ### Whole texts -/

/-- **A byte string is read as a document exactly if it spells it.** -/
theorem Document.read?_eq_some_iff {document : Document} {bytes : Bytes} :
    read? bytes = some document ↔ SpellsText document bytes := by
  constructor
  · intro read
    obtain ⟨⟨found, back⟩, inside, read⟩ := Option.bind_eq_some_iff.mp read
    obtain ⟨ends, made⟩ := Option.ite_none_right_eq_some.mp read
    cases made
    obtain ⟨front, word, leads, spells, rfl⟩ := readsSpelled _ inside
    exact ⟨front, word, back, leads, spells, skipBlanks_eq_nil_iff.mp ends, rfl⟩
  · rintro ⟨front, word, back, leads, spells, trails, rfl⟩
    have ends : EndsNumber back := by
      have nothing : Stops [] := fun byte member => nomatch member
      have behind := endsNumber_of_gap trails nothing
      rwa [List.append_nil] at behind
    unfold read?
    rw [readDocument?_gap leads, spells.isRead.read _ _ ends]
    · simp only [Option.bind_eq_bind, Option.bind_some, skipBlanks_eq_nil_iff.mpr trails, if_true]
    · simp only [List.length_append]
      omega

end LogProbe.Json
