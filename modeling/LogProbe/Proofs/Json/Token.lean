/-
**The grammar of strings and numbers.** How each part of a string or a number is spelled is said
without reading it, and reading finds exactly what is spelled. A string ends with its quote; a
number goes on as long as it can, so that what follows must not go on with it.

* `Json.SpellsPieces`, `Json.SpellsNumeral` — the grammar.
* `Json.readPieces?_eq_some_iff` — a string up to its closing quote.
* `Json.EndsNumber` — what does not go on with a number.
* `Json.exists_of_readUnsigned?`, `Json.SpellsUnsigned.readUnsigned?` — a number behind its sign.
-/

import LogProbe.Proofs.Json.Quoted

namespace LogProbe.Json

/-! ### Strings -/

/-- The letters behind a backslash, each with the byte that it stands for. -/
def escapes : List (UInt8 × UInt8) :=
  [(code '"', 0x22), (code '\\', 0x5C), (code '/', 0x2F), (code 'b', 0x08), (code 'f', 0x0C),
    (code 'n', 0x0A), (code 'r', 0x0D), (code 't', 0x09)]

/-- How a piece of a string is spelled: by itself, by a letter behind a backslash, or by four
hexadecimal digits behind a backslash and `u`. -/
inductive SpellsPiece : Piece → Bytes → Prop
  | plain {byte : UInt8} (plain : IsPlainByte byte) : SpellsPiece (.byte byte) [byte]
  | escape {letter value : UInt8} (known : (letter, value) ∈ escapes) :
      SpellsPiece (.byte value) [code '\\', letter]
  | unit {a b c d : UInt8} {unit : Nat} (digits : hexValue4? a b c d = some unit) :
      SpellsPiece (.unit unit) [code '\\', code 'u', a, b, c, d]

/-- How pieces are spelled: one behind the other. -/
inductive SpellsPieces : List Piece → Bytes → Prop
  | nil : SpellsPieces [] []
  | cons {piece : Piece} {pieces : List Piece} {word rest : Bytes} (first : SpellsPiece piece word)
      (others : SpellsPieces pieces rest) : SpellsPieces (piece :: pieces) (word ++ rest)

theorem escaped?_eq_some_iff {letter value : UInt8} :
    escaped? letter = some value ↔ (letter, value) ∈ escapes := by
  constructor
  · intro known
    unfold escaped? at known
    repeat' split at known
    all_goals
      cases known
    all_goals
      subst_vars
      decide
  · intro known
    have all : (escapes.all fun pair => escaped? pair.1 == some pair.2) = true := by decide
    exact eq_of_beq (List.all_eq_true.mp all _ known)

/-- A piece is read from how it is spelled. -/
theorem readPieces?_of_spellsPiece {piece : Piece} {word : Bytes} (spells : SpellsPiece piece word)
    (rest : Bytes) :
    readPieces? (word ++ rest) =
      (readPieces? rest).map fun read => (piece :: read.1, read.2) := by
  cases spells with
  | plain plain => exact readPieces?_plain (List.forall_mem_singleton.mpr plain) rest
  | escape known =>
    have notUnit : (escapes.all fun pair => pair.1 != code 'u') = true := by decide
    exact readPieces?_escape (escaped?_eq_some_iff.mpr known)
      (bne_iff_ne.mp (List.all_eq_true.mp notUnit _ known)) rest
  | unit digits => exact readPieces?_unit digits rest

/-- One more piece in front of those of a string. -/
theorem SpellsPiece.cons {piece : Piece} {pieces : List Piece} {word bytes rest : Bytes}
    (first : SpellsPiece piece word)
    (others : ∃ later, SpellsPieces pieces later ∧ bytes = later ++ code '"' :: rest) :
    ∃ whole, SpellsPieces (piece :: pieces) whole ∧ word ++ bytes = whole ++ code '"' :: rest := by
  obtain ⟨later, spells, rfl⟩ := others
  exact ⟨word ++ later, .cons first spells, (List.append_assoc _ _ _).symm⟩

/-- **A string is read up to its closing quote exactly if its pieces are spelled up to there.** -/
theorem readPieces?_eq_some_iff {pieces : List Piece} {bytes rest : Bytes} :
    readPieces? bytes = some (pieces, rest) ↔
      ∃ word, SpellsPieces pieces word ∧ bytes = word ++ code '"' :: rest := by
  constructor
  · intro read
    fun_induction readPieces? bytes generalizing pieces rest with
    | case1 | case3 | case5 | case7 => cases read
    | case2 =>
      cases read
      exact ⟨[], .nil, rfl⟩
    | case4 a b c d after _ ih =>
      obtain ⟨unit, digits, read⟩ := Option.bind_eq_some_iff.mp read
      obtain ⟨⟨others, left⟩, found, made⟩ := Option.bind_eq_some_iff.mp read
      cases made
      exact (SpellsPiece.unit digits).cons (ih found)
    | case6 letter after _ _ ih =>
      obtain ⟨value, known, read⟩ := Option.bind_eq_some_iff.mp read
      obtain ⟨⟨others, left⟩, found, made⟩ := Option.bind_eq_some_iff.mp read
      cases made
      exact (SpellsPiece.escape (escaped?_eq_some_iff.mp known)).cons (ih found)
    | case8 byte after noQuote noBackslash noControl ih =>
      obtain ⟨⟨others, left⟩, found, made⟩ := Option.bind_eq_some_iff.mp read
      cases made
      exact (SpellsPiece.plain ⟨noQuote, noBackslash, noControl⟩).cons (ih found)
  · rintro ⟨word, spells, rfl⟩
    induction spells with
    | nil =>
      rw [List.nil_append, readPieces?.eq_def]
      simp only [if_true]
    | cons first _ ih =>
      rw [List.append_assoc, readPieces?_of_spellsPiece first, ih]
      rfl

/-! ### Digits -/

/-- Nothing follows that is a digit. -/
def EndsDigits (rest : Bytes) : Prop := ∀ byte ∈ rest.head?, isDigit byte = false

/-- Bytes that are digits are read up to the first one that is none. -/
theorem readDigits_of_all {word rest : Bytes} (all : ∀ byte ∈ word, isDigit byte = true)
    (ends : EndsDigits rest) :
    readDigits (word ++ rest) = (word.map fun byte => byte.toNat - 48, rest) := by
  have stop : rest.takeWhile isDigit = [] ∧ rest.dropWhile isDigit = rest := by
    cases rest with
    | nil => exact ⟨rfl, rfl⟩
    | cons byte rest =>
      have solid := ends byte rfl
      rw [List.takeWhile_cons_of_neg (by simp [solid]),
        List.dropWhile_cons_of_neg (by simp [solid])]
      exact ⟨rfl, rfl⟩
  unfold readDigits
  rw [List.takeWhile_append_of_pos all, List.dropWhile_append_of_pos all, stop.1, stop.2,
    List.append_nil]

/-- How numbers are spelled by digits, at least one. -/
structure SpellsDigits (numbers : List Nat) (word : Bytes) : Prop where
  nonempty : word ≠ []
  all : ∀ byte ∈ word, isDigit byte = true
  values : numbers = word.map fun byte => byte.toNat - 48

/-- The digits that are read are those that stand there. -/
theorem exists_of_readDigits {numbers : List Nat} {bytes rest : Bytes} (some : numbers ≠ [])
    (read : readDigits bytes = (numbers, rest)) :
    ∃ word, SpellsDigits numbers word ∧ bytes = word ++ rest := by
  obtain ⟨rfl, rfl⟩ := Prod.mk.inj read
  exact ⟨bytes.takeWhile isDigit, ⟨fun none => some (by rw [none]; rfl),
    List.all_eq_true.mp List.all_takeWhile, rfl⟩, List.takeWhile_append_dropWhile.symm⟩

theorem exists_of_readSomeDigits? {numbers : List Nat} {bytes rest : Bytes}
    (read : readSomeDigits? bytes = some (numbers, rest)) :
    ∃ word, SpellsDigits numbers word ∧ bytes = word ++ rest := by
  unfold readSomeDigits? at read
  split at read
  · cases read
  · rename_i digits left some found
    cases read
    exact exists_of_readDigits (fun none => some (by rw [none])) found

namespace SpellsDigits

variable {numbers : List Nat} {word : Bytes} (spells : SpellsDigits numbers word)

include spells

/-- Digits are read up to where they end. -/
theorem readDigits {rest : Bytes} (ends : EndsDigits rest) :
    Json.readDigits (word ++ rest) = (numbers, rest) := by
  rw [readDigits_of_all spells.all ends, spells.values]

theorem exists_eq_cons : ∃ digit others, numbers = digit :: others := by
  obtain ⟨byte, rest, rfl⟩ := List.exists_cons_of_ne_nil spells.nonempty
  exact ⟨_, _, spells.values⟩

theorem readSomeDigits? {rest : Bytes} (ends : EndsDigits rest) :
    Json.readSomeDigits? (word ++ rest) = some (numbers, rest) := by
  obtain ⟨digit, others, rfl⟩ := spells.exists_eq_cons
  unfold Json.readSomeDigits?
  rw [spells.readDigits ends]

end SpellsDigits

/-! ### Numbers -/

/-- How a whole part is spelled: a zero in front stands alone. -/
structure SpellsWhole (numbers : List Nat) (word : Bytes) : Prop where
  digits : SpellsDigits numbers word
  leading : numbers.head? = some 0 → numbers = [0]

/-- How a fraction is spelled, or none. -/
inductive SpellsFraction : Option (List Nat) → Bytes → Prop
  | absent : SpellsFraction none []
  | present {numbers : List Nat} {word : Bytes} (digits : SpellsDigits numbers word) :
      SpellsFraction (some numbers) (code '.' :: word)

/-- How the sign of an exponent is spelled, and whether it is a minus. -/
inductive SpellsSign : Bool → Bytes → Prop
  | absent : SpellsSign false []
  | plus : SpellsSign false [code '+']
  | minus : SpellsSign true [code '-']

/-- How an exponent is spelled, or none. -/
inductive SpellsExponent : Option (Bool × List Nat) → Bytes → Prop
  | absent : SpellsExponent none []
  | present {letter : UInt8} (marked : letter = code 'e' ∨ letter = code 'E') {negative : Bool}
      {sign : Bytes} (signed : SpellsSign negative sign) {numbers : List Nat} {word : Bytes}
      (digits : SpellsDigits numbers word) :
      SpellsExponent (some (negative, numbers)) (letter :: (sign ++ word))

/-- How a number is spelled behind its sign. -/
inductive SpellsUnsigned : Numeral → Bytes → Prop
  | of_parts {whole : List Nat} {wholeWord : Bytes} (isWhole : SpellsWhole whole wholeWord)
      {fraction : Option (List Nat)} {fractionWord : Bytes}
      (isFraction : SpellsFraction fraction fractionWord)
      {exponent : Option (Bool × List Nat)} {exponentWord : Bytes}
      (isExponent : SpellsExponent exponent exponentWord) (negative : Bool) :
      SpellsUnsigned ⟨negative, whole, fraction, exponent⟩
        (wholeWord ++ (fractionWord ++ exponentWord))

/-- How a number is spelled: a minus in front, if it is negative. -/
def SpellsNumeral (numeral : Numeral) (word : Bytes) : Prop :=
  ∃ unsigned, SpellsUnsigned numeral unsigned ∧
    word = (if numeral.negative then [code '-'] else []) ++ unsigned

/-! ### What is read of a number is spelled -/

theorem exists_of_readWhole? {whole : List Nat} {bytes rest : Bytes}
    (read : readWhole? bytes = some (whole, rest)) :
    ∃ word, SpellsWhole whole word ∧ bytes = word ++ rest := by
  unfold readWhole? at read
  split at read
  · cases read
  · cases read
  · rename_i digits left some single found
    cases read
    obtain ⟨word, digits, split⟩ := exists_of_readDigits (fun none => some (by rw [none])) found
    refine ⟨word, ⟨digits, fun leading => ?_⟩, split⟩
    obtain ⟨first, others, rfl⟩ := digits.exists_eq_cons
    cases leading
    cases others with
    | nil => rfl
    | cons next others => exact (single next others rfl).elim

theorem exists_of_readFraction? {fraction : Option (List Nat)} {bytes rest : Bytes}
    (read : readFraction? bytes = some (fraction, rest)) :
    ∃ word, SpellsFraction fraction word ∧ bytes = word ++ rest := by
  unfold readFraction? at read
  split at read
  · cases read
    exact ⟨[], .absent, rfl⟩
  split at read
  · rename_i point
    obtain ⟨⟨digits, left⟩, found, made⟩ := Option.bind_eq_some_iff.mp read
    cases made
    obtain ⟨word, spells, rfl⟩ := exists_of_readSomeDigits? found
    exact ⟨code '.' :: word, .present spells, by rw [point]; rfl⟩
  · cases read
    exact ⟨[], .absent, rfl⟩

theorem exists_of_readSign (bytes : Bytes) :
    ∃ word, SpellsSign (readSign bytes).1 word ∧ bytes = word ++ (readSign bytes).2 := by
  unfold readSign
  split
  · exact ⟨[], .absent, rfl⟩
  split
  · rename_i minus
    exact ⟨[code '-'], .minus, by rw [minus]; rfl⟩
  split
  · rename_i plus
    exact ⟨[code '+'], .plus, by rw [plus]; rfl⟩
  · exact ⟨[], .absent, rfl⟩

theorem exists_of_readExponent? {exponent : Option (Bool × List Nat)} {bytes rest : Bytes}
    (read : readExponent? bytes = some (exponent, rest)) :
    ∃ word, SpellsExponent exponent word ∧ bytes = word ++ rest := by
  unfold readExponent? at read
  split at read
  · cases read
    exact ⟨[], .absent, rfl⟩
  rename_i letter after
  split at read
  · rename_i marked
    obtain ⟨sign, signed, split⟩ := exists_of_readSign after
    generalize readSign after = signs at read signed split
    obtain ⟨negative, behind⟩ := signs
    obtain ⟨⟨digits, left⟩, found, made⟩ := Option.bind_eq_some_iff.mp read
    cases made
    obtain ⟨word, spells, rfl⟩ := exists_of_readSomeDigits? found
    exact ⟨_, .present marked signed spells, by rw [split, List.cons_append, List.append_assoc]⟩
  · cases read
    exact ⟨[], .absent, rfl⟩

/-- **What is read of a number behind its sign is spelled.** -/
theorem exists_of_readUnsigned? {negative : Bool} {numeral : Numeral} {bytes rest : Bytes}
    (read : readUnsigned? negative bytes = some (numeral, rest)) :
    ∃ word, SpellsUnsigned numeral word ∧ numeral.negative = negative ∧ bytes = word ++ rest := by
  obtain ⟨⟨whole, left⟩, foundWhole, read⟩ := Option.bind_eq_some_iff.mp read
  obtain ⟨⟨fraction, behind⟩, foundFraction, read⟩ := Option.bind_eq_some_iff.mp read
  obtain ⟨⟨exponent, after⟩, foundExponent, made⟩ := Option.bind_eq_some_iff.mp read
  cases made
  obtain ⟨wholeWord, isWhole, rfl⟩ := exists_of_readWhole? foundWhole
  obtain ⟨fractionWord, isFraction, rfl⟩ := exists_of_readFraction? foundFraction
  obtain ⟨exponentWord, isExponent, rfl⟩ := exists_of_readExponent? foundExponent
  refine ⟨_, .of_parts isWhole isFraction isExponent negative, rfl, ?_⟩
  simp only [List.append_assoc]

/-! ### What is spelled of a number is read -/

/-- What follows does not go on with a number: it begins with neither a digit nor a point nor the
letter of an exponent. -/
def EndsNumber (rest : Bytes) : Prop :=
  ∀ byte ∈ rest.head?, isDigit byte = false ∧ byte ≠ code '.' ∧
    ¬ (byte = code 'e' ∨ byte = code 'E')

theorem SpellsWhole.readWhole? {whole : List Nat} {word : Bytes} (spells : SpellsWhole whole word)
    {rest : Bytes} (ends : EndsDigits rest) :
    Json.readWhole? (word ++ rest) = some (whole, rest) := by
  obtain ⟨digit, others, rfl⟩ := spells.digits.exists_eq_cons
  unfold Json.readWhole?
  rw [spells.digits.readDigits ends]
  cases digit with
  | succ digit => rfl
  | zero =>
    rw [(List.cons.inj (spells.leading rfl)).2]
    rfl

theorem SpellsFraction.readFraction? {fraction : Option (List Nat)} {word : Bytes}
    (spells : SpellsFraction fraction word) {rest : Bytes}
    (ends : ∀ byte ∈ rest.head?, isDigit byte = false ∧ byte ≠ code '.') :
    Json.readFraction? (word ++ rest) = some (fraction, rest) := by
  cases spells with
  | absent =>
    cases rest with
    | nil => rfl
    | cons byte rest => exact if_neg (ends byte rfl).2
  | present digits =>
    have read := digits.readSomeDigits? fun byte member => (ends byte member).1
    rw [List.cons_append, Json.readFraction?, if_pos rfl, read]
    rfl

theorem SpellsSign.readSign {negative : Bool} {word : Bytes} (spells : SpellsSign negative word)
    {digit : UInt8} (isDigit : isDigit digit = true) (rest : Bytes) :
    Json.readSign (word ++ digit :: rest) = (negative, digit :: rest) := by
  cases spells with
  | minus => rfl
  | plus => rfl
  | absent =>
    have noMinus : digit ≠ code '-' := by
      rintro rfl
      exact absurd isDigit (by decide)
    have noPlus : digit ≠ code '+' := by
      rintro rfl
      exact absurd isDigit (by decide)
    rw [List.nil_append, Json.readSign, if_neg noMinus, if_neg noPlus]

theorem SpellsExponent.readExponent? {exponent : Option (Bool × List Nat)} {word : Bytes}
    (spells : SpellsExponent exponent word) {rest : Bytes} (ends : EndsNumber rest) :
    Json.readExponent? (word ++ rest) = some (exponent, rest) := by
  cases spells with
  | absent =>
    cases rest with
    | nil => rfl
    | cons byte rest => exact if_neg (ends byte rfl).2.2
  | present marked signed digits =>
    have read := digits.readSomeDigits? fun byte member => (ends byte member).1
    obtain ⟨digit, others, rfl⟩ := List.exists_cons_of_ne_nil digits.nonempty
    have sign := signed.readSign (digits.all digit List.mem_cons_self) (others ++ rest)
    rw [List.cons_append, List.append_assoc, List.cons_append, Json.readExponent?, if_pos marked,
      sign]
    rw [List.cons_append] at read
    simp only [read, Option.bind_eq_bind, Option.bind_some]

/-- An exponent goes on with neither the digits nor the fraction in front of it. -/
theorem SpellsExponent.ends {exponent : Option (Bool × List Nat)} {word : Bytes}
    (spells : SpellsExponent exponent word) {rest : Bytes} (ends : EndsNumber rest) :
    ∀ byte ∈ (word ++ rest).head?, isDigit byte = false ∧ byte ≠ code '.' := by
  cases spells with
  | absent => exact fun byte member => ⟨(ends byte member).1, (ends byte member).2.1⟩
  | present marked signed digits =>
    intro byte member
    cases member
    rcases marked with rfl | rfl <;> decide

/-- A fraction does not go on with the digits in front of it. -/
theorem SpellsFraction.endsDigits {fraction : Option (List Nat)} {word : Bytes}
    (spells : SpellsFraction fraction word) {rest : Bytes} (ends : EndsDigits rest) :
    EndsDigits (word ++ rest) := by
  cases spells with
  | absent => exact ends
  | present digits =>
    intro byte member
    cases member
    decide

/-- A number begins with a digit behind its sign. -/
theorem SpellsUnsigned.exists_eq_cons {numeral : Numeral} {word : Bytes}
    (spells : SpellsUnsigned numeral word) :
    ∃ digit rest, word = digit :: rest ∧ isDigit digit = true := by
  cases spells with
  | of_parts isWhole isFraction isExponent =>
    obtain ⟨digit, rest, rfl⟩ := List.exists_cons_of_ne_nil isWhole.digits.nonempty
    exact ⟨digit, _, List.cons_append, isWhole.digits.all digit List.mem_cons_self⟩

/-- **What is spelled of a number is read behind its sign**, if what follows ends it. -/
theorem SpellsUnsigned.readUnsigned? {numeral : Numeral} {word : Bytes}
    (spells : SpellsUnsigned numeral word) {rest : Bytes} (ends : EndsNumber rest) :
    Json.readUnsigned? numeral.negative (word ++ rest) = some (numeral, rest) := by
  cases spells with
  | @of_parts whole wholeWord isWhole fraction fractionWord isFraction exponent exponentWord
      isExponent negative =>
    have endsFraction := isExponent.ends ends
    have endsWhole : EndsDigits (fractionWord ++ (exponentWord ++ rest)) :=
      isFraction.endsDigits fun byte member => (endsFraction byte member).1
    simp only [List.append_assoc]
    simp only [Json.readUnsigned?, isWhole.readWhole? endsWhole,
      isFraction.readFraction? endsFraction, isExponent.readExponent? ends, Option.bind_eq_bind,
      Option.bind_some]

end LogProbe.Json
