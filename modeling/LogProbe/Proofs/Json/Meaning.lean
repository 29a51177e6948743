/-
**What JSON means.** A document has a value exactly if its strings are Unicode, its numbers are in
range and its arrays and objects do not stand too deep inside each other. The characters of a string
stand there in their bytes, or are given by their numbers, those above U+FFFF by two surrogates.

* `Json.Means` — the text of a string's pieces.
* `Json.textOf?_eq_some_iff` — the pieces that mean a text.
* `Json.Numeral.InRange`, `Json.Numeral.exists_number?_iff` — the numerals that have a number.
* `Json.Document.IsMeant` — the documents that mean something.
* `Json.exists_valueWithin?_iff` — a document has a value exactly if it means something.
-/

import LogProbe.Proofs.Decimal.Range
import LogProbe.Proofs.Json.Record
import LogProbe.Proofs.Text.Spelling

namespace LogProbe

namespace Utf8

/-- A character begins with a byte that continues none, and goes on with bytes that do. -/
theorem exists_utf8EncodeChar_eq (c : Char) :
    ∃ lead rest, String.utf8EncodeChar c = lead :: rest ∧ isContinuation lead = false ∧
      ∀ byte ∈ rest, isContinuation byte = true := by
  have bound := toNat_lt c
  have leads {n : Nat} (small : n < 256) (outside : n < 0x80 ∨ 0xBF < n) :
      isContinuation (UInt8.ofNat n) = false := by
    rw [isContinuation_ofNat small]
    simp only [Bool.and_eq_false_iff, decide_eq_false_iff_not]
    omega
  by_cases one : c.toNat < 0x80
  · exact ⟨_, [], utf8EncodeChar_of_lt_80 one, leads (by omega) (by omega), List.forall_mem_nil _⟩
  by_cases two : c.toNat < 0x800
  · exact ⟨_, _, utf8EncodeChar_of_lt_800 (by omega) two, leads (by omega) (by omega),
      List.forall_mem_singleton.mpr (isContinuation_low _)⟩
  by_cases three : c.toNat < 0x10000
  · exact ⟨_, _, utf8EncodeChar_of_lt_10000 (by omega) three, leads (by omega) (by omega),
      List.forall_mem_cons.mpr ⟨isContinuation_low _,
        List.forall_mem_singleton.mpr (isContinuation_low _)⟩⟩
  · exact ⟨_, _, utf8EncodeChar_of_le (by omega), leads (by omega) (by omega),
      List.forall_mem_cons.mpr ⟨isContinuation_low _, List.forall_mem_cons.mpr
        ⟨isContinuation_low _, List.forall_mem_singleton.mpr (isContinuation_low _)⟩⟩⟩

/-- A byte string begins with the bytes of one character at most. -/
theorem eq_of_utf8EncodeChar_append {c d : Char} {first second : Bytes}
    (same : String.utf8EncodeChar c ++ first = String.utf8EncodeChar d ++ second) :
    c = d ∧ first = second := by
  have scans := congrArg scan same
  rw [scan_utf8EncodeChar, scan_utf8EncodeChar] at scans
  cases Option.some.inj (List.cons.inj scans).1
  exact ⟨rfl, List.append_cancel_left same⟩

end Utf8

namespace Json

/-! ### Strings -/

/-- The pieces of a character: its bytes, its number, or the two surrogates of its number. -/
inductive MeansChar : List Piece → Char → Prop
  | bytes (c : Char) : MeansChar ((String.utf8EncodeChar c).map .byte) c
  | unit {number : Nat} (proper : ¬ (0xD800 ≤ number ∧ number ≤ 0xDFFF)) :
      MeansChar [.unit number] (Char.ofNat number)
  | pair {high low : Nat} (isHigh : 0xD800 ≤ high ∧ high ≤ 0xDBFF)
      (isLow : 0xDC00 ≤ low ∧ low ≤ 0xDFFF) :
      MeansChar [.unit high, .unit low]
        (Char.ofNat (0x10000 + (high - 0xD800) * 0x400 + (low - 0xDC00)))

/-- The pieces of a text: those of its characters. -/
inductive Means : List Piece → List Char → Prop
  | nil : Means [] []
  | cons {own pieces : List Piece} {c : Char} {text : List Char} (first : MeansChar own c)
      (others : Means pieces text) : Means (own ++ pieces) (c :: text)

theorem unescape?_of_meansChar {own : List Piece} {c : Char} (means : MeansChar own c)
    (pieces : List Piece) :
    unescape? (own ++ pieces) = (unescape? pieces).map (String.utf8EncodeChar c ++ ·) := by
  cases means with
  | bytes => exact unescape?_bytes _ pieces
  | @unit number proper =>
    rw [List.singleton_append, unescape?.eq_def]
    simp only [show ¬ (0xDC00 ≤ number ∧ number ≤ 0xDFFF) by omega,
      show ¬ (0xD800 ≤ number ∧ number ≤ 0xDBFF) by omega, if_false]
    cases unescape? pieces <;> rfl
  | @pair high low isHigh isLow =>
    rw [List.cons_append, List.singleton_append, unescape?.eq_def]
    simp only [show ¬ (0xDC00 ≤ high ∧ high ≤ 0xDFFF) by omega, if_pos isHigh, if_pos isLow,
      if_false]
    cases unescape? pieces <;> rfl

/-- What begins with a unit begins with the pieces of a character. -/
theorem exists_of_unescape?_unit {number : Nat} {rest : List Piece} {bytes : Bytes}
    (read : unescape? (.unit number :: rest) = some bytes) :
    ∃ own later c after, .unit number :: rest = own ++ later ∧ MeansChar own c ∧
      unescape? later = some after ∧ bytes = String.utf8EncodeChar c ++ after := by
  rw [unescape?.eq_def] at read
  simp only at read
  split at read
  · cases read
  rename_i notLow
  split at read
  · rename_i isHigh
    split at read
    · rename_i low later
      obtain ⟨isLow, read⟩ := Option.ite_none_right_eq_some.mp read
      obtain ⟨after, found, made⟩ := Option.bind_eq_some_iff.mp read
      exact ⟨_, later, _, after, rfl, .pair isHigh isLow, found, (Option.some.inj made).symm⟩
    · cases read
  · obtain ⟨after, found, made⟩ := Option.bind_eq_some_iff.mp read
    exact ⟨_, rest, _, after, rfl, .unit (by omega), found, (Option.some.inj made).symm⟩

/-- Bytes that continue a character are not those of units. -/
theorem exists_of_unescape?_continuation {bytes more : Bytes} {pieces : List Piece}
    (continues : ∀ byte ∈ bytes, Utf8.isContinuation byte = true)
    (read : unescape? pieces = some (bytes ++ more)) :
    ∃ later, pieces = bytes.map .byte ++ later ∧ unescape? later = some more := by
  induction bytes generalizing pieces with
  | nil => exact ⟨pieces, rfl, read⟩
  | cons byte bytes ih =>
    obtain ⟨first, continues⟩ := List.forall_mem_cons.mp continues
    cases pieces with
    | nil => cases read
    | cons piece rest =>
      cases piece with
      | byte value =>
        rw [unescape?] at read
        obtain ⟨found, readRest, made⟩ := Option.bind_eq_some_iff.mp read
        cases made
        obtain ⟨later, rfl, readLater⟩ := ih continues readRest
        exact ⟨later, rfl, readLater⟩
      | unit number =>
        obtain ⟨own, later, c, after, -, -, -, starts⟩ := exists_of_unescape?_unit read
        obtain ⟨lead, tail, char, noContinuation, -⟩ := Utf8.exists_utf8EncodeChar_eq c
        rw [char] at starts
        cases (List.cons.inj starts).1
        exact absurd first (noContinuation ▸ Bool.false_ne_true)

/-- **The pieces that mean the bytes of a text**, by induction on its characters. -/
theorem means_of_unescape? {pieces : List Piece} {text : List Char}
    (read : unescape? pieces = some (Utf8.encode text)) : Means pieces text := by
  induction text generalizing pieces with
  | nil =>
    cases pieces with
    | nil => exact .nil
    | cons piece rest =>
      cases piece with
      | byte value =>
        rw [unescape?] at read
        obtain ⟨found, -, made⟩ := Option.bind_eq_some_iff.mp read
        cases made
      | unit number =>
        obtain ⟨own, later, c, after, -, -, -, starts⟩ := exists_of_unescape?_unit read
        obtain ⟨lead, tail, char, -⟩ := Utf8.exists_utf8EncodeChar_eq c
        rw [char] at starts
        cases starts
  | cons c text ih =>
    have encoded : Utf8.encode (c :: text) = String.utf8EncodeChar c ++ Utf8.encode text :=
      List.flatMap_cons
    obtain ⟨lead, tail, char, -, continues⟩ := Utf8.exists_utf8EncodeChar_eq c
    rw [encoded] at read
    cases pieces with
    | nil =>
      rw [char] at read
      cases read
    | cons piece rest =>
      cases piece with
      | byte value =>
        -- the bytes that continue the character are pieces of their own
        rw [unescape?, char] at read
        obtain ⟨found, readRest, made⟩ := Option.bind_eq_some_iff.mp read
        cases made
        obtain ⟨later, rfl, readLater⟩ := exists_of_unescape?_continuation continues readRest
        have whole := MeansChar.bytes c
        rw [char] at whole
        exact .cons whole (ih readLater)
      | unit number =>
        obtain ⟨own, later, d, after, split, means, readLater, starts⟩ :=
          exists_of_unescape?_unit read
        obtain ⟨rfl, rfl⟩ := Utf8.eq_of_utf8EncodeChar_append starts
        rw [split]
        exact .cons means (ih readLater)

theorem unescape?_of_means {pieces : List Piece} {text : List Char} (means : Means pieces text) :
    unescape? pieces = some (Utf8.encode text) := by
  induction means with
  | nil => rfl
  | cons first _ ih =>
    rw [unescape?_of_meansChar first, ih]
    rfl

/-- **The pieces of a string mean a text** exactly if they are those of its characters. -/
theorem textOf?_eq_some_iff {pieces : List Piece} {text : String} :
    textOf? pieces = some text ↔ Means pieces text.toList := by
  constructor
  · intro meant
    obtain ⟨bytes, read, meant⟩ := Option.bind_eq_some_iff.mp meant
    obtain ⟨chars, decoded, made⟩ := Option.bind_eq_some_iff.mp meant
    cases made
    rw [String.toList_ofList]
    exact means_of_unescape? (Utf8.decode?_eq_some_iff.mp decoded ▸ read)
  · intro means
    unfold textOf?
    rw [unescape?_of_means means]
    simp only [Option.bind_eq_bind, Option.bind_some, Utf8.decode?_encode, String.ofList_toList]

/-! ### Numbers -/

theorem absorb_lt {value : Nat} (small : value < UInt64.size) (digits : List Nat) :
    (absorb value digits).1 < UInt64.size := by
  induction digits generalizing value with
  | nil => exact small
  | cons digit rest ih =>
    rw [absorb]
    split
    · exact ih ‹_›
    · exact small

namespace Numeral

/-- The digits of a numeral that count are a number below 2^64. -/
theorem scaledDigits_lt (numeral : Numeral) : numeral.scaledDigits.1 < UInt64.size := by
  have whole : (absorb 0 numeral.whole).1 < UInt64.size := absorb_lt (by decide) _
  unfold scaledDigits
  simp only
  split
  · exact whole
  · exact absorb_lt whole _

/-- The power of ten of a numeral, unless its exponent is out of any range. -/
def power? (numeral : Numeral) : Option Int :=
  match numeral.exponent with
  | none => some numeral.scaledDigits.2
  | some (negative, digits) =>
    if exponentBound ≤ decimal digits then none
    else
      let power := numeral.scaledDigits.2
      some (if negative then power - decimal digits else power + decimal digits)

/-- A numeral is too large: its digits times its power of ten are, or they are not zero and the
exponent is out of any range and not negative. -/
inductive IsTooLarge (numeral : Numeral) : Prop
  | exponent {digits : List Nat} (given : numeral.exponent = some (false, digits))
      (bound : exponentBound ≤ decimal digits) (solid : numeral.scaledDigits.1 ≠ 0)
  | scaled {power : Int} (given : numeral.power? = some power)
      (large : Magnitude.IsTooLarge numeral.scaledDigits.1 power)

/-- The numerals of integers that fit 64 bits, and those that are not too large. -/
inductive InRange (numeral : Numeral) : Prop
  | integer {value : Int} (denotes : numeral.Denotes value) (fits : Fits value)
  | real (inside : ¬ numeral.IsTooLarge)

/-- With a power of ten, only the product can be too large. -/
theorem isTooLarge_iff_of_power? {numeral : Numeral} {power : Int}
    (given : numeral.power? = some power)
    (bounded : ∀ digits, numeral.exponent = some (false, digits) →
      ¬ exponentBound ≤ decimal digits) :
    numeral.IsTooLarge ↔ Magnitude.IsTooLarge numeral.scaledDigits.1 power := by
  constructor
  · intro large
    cases large with
    | exponent own bound => exact absurd bound (bounded _ own)
    | scaled own large =>
      cases given.symm.trans own
      exact large
  · exact .scaled given

theorem magnitude?_eq_none_iff {numeral : Numeral} :
    numeral.magnitude? = none ↔ numeral.IsTooLarge := by
  cases given : numeral.exponent with
  | none =>
    have power : numeral.power? = some numeral.scaledDigits.2 := by
      unfold power?
      rw [given]
    have made : numeral.magnitude? =
        Magnitude.scaled? numeral.scaledDigits.1 numeral.scaledDigits.2 := by
      unfold magnitude?
      rw [given]
    rw [made, Magnitude.scaled?_eq_none_iff numeral.scaledDigits_lt,
      isTooLarge_iff_of_power? power fun _ own => nomatch given.symm.trans own]
  | some exponent =>
    obtain ⟨negative, digits⟩ := exponent
    by_cases bound : exponentBound ≤ decimal digits
    · have power : numeral.power? = none := by
        unfold power?
        rw [given]
        exact if_pos bound
      have made : numeral.magnitude? =
          if numeral.scaledDigits.1 ≠ 0 ∧ negative = false then none else some .zero := by
        unfold magnitude?
        rw [given]
        exact if_pos bound
      rw [made]
      constructor
      · intro none
        obtain ⟨solid, rfl⟩ : numeral.scaledDigits.1 ≠ 0 ∧ negative = false := by
          by_contra other
          rw [if_neg other] at none
          cases none
        exact .exponent given bound solid
      · intro large
        cases large with
        | exponent own _ solid =>
          cases given.symm.trans own
          exact if_pos ⟨solid, rfl⟩
        | scaled own => exact nomatch power.symm.trans own
    · have power : numeral.power? = some (if negative then numeral.scaledDigits.2 - decimal digits
          else numeral.scaledDigits.2 + decimal digits) := by
        unfold power?
        rw [given]
        exact if_neg bound
      have made : numeral.magnitude? = Magnitude.scaled? numeral.scaledDigits.1
          (if negative then numeral.scaledDigits.2 - decimal digits
            else numeral.scaledDigits.2 + decimal digits) := by
        unfold magnitude?
        rw [given]
        exact if_neg bound
      have bounded : ∀ others, numeral.exponent = some (false, others) →
          ¬ exponentBound ≤ decimal others := by
        intro others own
        cases given.symm.trans own
        exact bound
      rw [made, Magnitude.scaled?_eq_none_iff numeral.scaledDigits_lt,
        isTooLarge_iff_of_power? power bounded]

/-- **A numeral has a number exactly if it is in range.** -/
theorem exists_number?_iff {numeral : Numeral} :
    (∃ number, numeral.number? = some number) ↔ numeral.InRange := by
  constructor
  · rintro ⟨number, read⟩
    unfold number? at read
    split at read
    · rename_i value integer
      exact .integer (denotes_of_integer? integer) (fits_of_integer? integer)
    · obtain ⟨magnitude, found, -⟩ := Option.bind_eq_some_iff.mp read
      refine .real fun large => ?_
      rw [magnitude?_eq_none_iff.mpr large] at found
      cases found
  · intro inRange
    unfold number?
    split
    · exact ⟨_, rfl⟩
    · rename_i real
      cases inRange with
      | integer denotes fits => exact nomatch real.symm.trans (denotes.integer? fits)
      | real inside =>
        cases found : numeral.magnitude? with
        | none => exact absurd (magnitude?_eq_none_iff.mp found) inside
        | some magnitude => exact ⟨_, rfl⟩

end Numeral

/-! ### Documents -/

/-- The documents that mean something, with room for so many levels of arrays and objects. -/
inductive Document.IsMeant : Nat → Document → Prop
  | null {depth : Nat} : IsMeant depth .null
  | boolean {depth : Nat} (value : Bool) : IsMeant depth (.boolean value)
  | number {depth : Nat} {numeral : Numeral} (inRange : numeral.InRange) :
      IsMeant depth (.number numeral)
  | string {depth : Nat} {pieces : List Piece} {text : List Char} (means : Means pieces text) :
      IsMeant depth (.string pieces)
  | array {depth : Nat} {items : List Document} (each : ∀ item ∈ items, IsMeant depth item) :
      IsMeant (depth + 1) (.array items)
  | object {depth : Nat} {members : List (List Piece × Document)}
      (names : ∀ member ∈ members, ∃ text, Means member.1 text)
      (each : ∀ member ∈ members, IsMeant depth member.2) : IsMeant (depth + 1) (.object members)

theorem exists_textOf?_iff {pieces : List Piece} :
    (∃ text, textOf? pieces = some text) ↔ ∃ text, Means pieces text := by
  constructor
  · rintro ⟨text, meant⟩
    exact ⟨text.toList, textOf?_eq_some_iff.mp meant⟩
  · rintro ⟨text, means⟩
    exact ⟨String.ofList text, textOf?_eq_some_iff.mpr (by rwa [String.toList_ofList])⟩

/-- Items have values exactly if each of them has. -/
theorem exists_valuesWithin?_iff {depth : Nat} {items : List Document} :
    (∃ values, valuesWithin? depth items = some values) ↔
      ∀ item ∈ items, ∃ value, valueWithin? depth item = some value := by
  induction items with
  | nil => exact iff_of_true ⟨[], by rw [valuesWithin?]⟩ (List.forall_mem_nil _)
  | cons item rest ih =>
    rw [List.forall_mem_cons, ← ih, valuesWithin?]
    constructor
    · rintro ⟨values, read⟩
      obtain ⟨value, first, read⟩ := Option.bind_eq_some_iff.mp read
      obtain ⟨others, readOthers, -⟩ := Option.bind_eq_some_iff.mp read
      exact ⟨⟨value, first⟩, others, readOthers⟩
    · rintro ⟨⟨value, first⟩, others, readOthers⟩
      exact ⟨value :: others, by rw [first, readOthers]; rfl⟩

/-- Members have values exactly if each of them has a name and a value. -/
theorem exists_membersWithin?_iff {depth : Nat} {members : List (List Piece × Document)} :
    (∃ fields, membersWithin? depth members = some fields) ↔
      ∀ member ∈ members, (∃ text, Means member.1 text) ∧
        ∃ value, valueWithin? depth member.2 = some value := by
  induction members with
  | nil => exact iff_of_true ⟨[], by rw [membersWithin?]⟩ (List.forall_mem_nil _)
  | cons member rest ih =>
    obtain ⟨pieces, item⟩ := member
    rw [List.forall_mem_cons, ← ih, membersWithin?, ← exists_textOf?_iff]
    constructor
    · rintro ⟨fields, read⟩
      obtain ⟨name, named, read⟩ := Option.bind_eq_some_iff.mp read
      obtain ⟨value, first, read⟩ := Option.bind_eq_some_iff.mp read
      obtain ⟨others, readOthers, -⟩ := Option.bind_eq_some_iff.mp read
      exact ⟨⟨⟨name, named⟩, value, first⟩, others, readOthers⟩
    · rintro ⟨⟨⟨name, named⟩, value, first⟩, others, readOthers⟩
      exact ⟨(name, value) :: others, by rw [named, first, readOthers]; rfl⟩

/-- A document has a value exactly if it means something, if that holds of the documents inside it,
which have one level less. -/
theorem exists_valueWithin?_iff_of_inner {depth : Nat} {document : Document}
    (inner : ∀ less, depth = less + 1 → ∀ {document : Document},
      (∃ value, valueWithin? less document = some value) ↔ document.IsMeant less) :
    (∃ value, valueWithin? depth document = some value) ↔ document.IsMeant depth := by
  cases document with
  | null => exact iff_of_true ⟨.null, by rw [valueWithin?]⟩ .null
  | boolean value => exact iff_of_true ⟨.boolean value, by rw [valueWithin?]⟩ (.boolean value)
  | number numeral =>
    rw [valueWithin?]
    constructor
    · rintro ⟨value, read⟩
      obtain ⟨number, found, -⟩ := Option.bind_eq_some_iff.mp read
      exact .number (Numeral.exists_number?_iff.mp ⟨number, found⟩)
    · intro meant
      cases meant with
      | number inRange =>
        obtain ⟨number, found⟩ := Numeral.exists_number?_iff.mpr inRange
        exact ⟨.number number, by rw [found]; rfl⟩
  | string pieces =>
    rw [valueWithin?]
    constructor
    · rintro ⟨value, read⟩
      obtain ⟨text, found, -⟩ := Option.bind_eq_some_iff.mp read
      exact .string (textOf?_eq_some_iff.mp found)
    · intro meant
      cases meant with
      | string means =>
        obtain ⟨text, found⟩ := exists_textOf?_iff.mpr ⟨_, means⟩
        exact ⟨.string text, by rw [found]; rfl⟩
  | array items =>
    cases depth with
    | zero =>
      rw [valueWithin?]
      constructor
      · rintro ⟨value, read⟩
        cases read
      · intro meant
        cases meant
    | succ less =>
      have each : (∃ values, valuesWithin? less items = some values) ↔ _ :=
        exists_valuesWithin?_iff
      simp only [inner less rfl] at each
      rw [valueWithin?]
      constructor
      · rintro ⟨value, read⟩
        obtain ⟨values, found, -⟩ := Option.bind_eq_some_iff.mp read
        exact .array (each.mp ⟨values, found⟩)
      · intro meant
        cases meant with
        | array meant =>
          obtain ⟨values, found⟩ := each.mpr meant
          exact ⟨.array values, by rw [found]; rfl⟩
  | object members =>
    cases depth with
    | zero =>
      rw [valueWithin?]
      constructor
      · rintro ⟨value, read⟩
        cases read
      · intro meant
        cases meant
    | succ less =>
      have each : (∃ fields, membersWithin? less members = some fields) ↔ _ :=
        exists_membersWithin?_iff
      simp only [inner less rfl] at each
      rw [valueWithin?]
      constructor
      · rintro ⟨value, read⟩
        obtain ⟨fields, found, -⟩ := Option.bind_eq_some_iff.mp read
        have both := each.mp ⟨fields, found⟩
        exact .object (fun member inside => (both member inside).1)
          fun member inside => (both member inside).2
      · intro meant
        cases meant with
        | object names meant =>
          obtain ⟨fields, found⟩ :=
            each.mpr fun member inside => ⟨names member inside, meant member inside⟩
          exact ⟨.object (fieldsOf fields), by rw [found]; rfl⟩

/-- **A document has a value exactly if it means something**, by induction on the levels. -/
theorem exists_valueWithin?_iff {depth : Nat} {document : Document} :
    (∃ value, valueWithin? depth document = some value) ↔ document.IsMeant depth := by
  induction depth generalizing document with
  | zero => exact exists_valueWithin?_iff_of_inner fun less same => nomatch same
  | succ depth ih =>
    refine exists_valueWithin?_iff_of_inner fun less same => ?_
    cases same
    exact ih

end Json

end LogProbe
