/-
**Binary64 numbers are written as numerals.** The shortest decimal of a number is laid out with a
whole part that begins with a zero only if that is all of it, perhaps a fraction and perhaps an
exponent, each with a digit at least, so that the grammar of numbers spells it.

* `Json.IsNumeral` — the characters of a numeral without its sign.
* `Json.IsNumeral.exists_spells` — they spell a numeral.
* `Magnitude.digits_shortest` — the shortest decimal has digits unless it is a plain zero.
* `Json.isNumeral_chars` — a decimal in a layout is such a numeral.
* `Json.exists_spellsNumeral_real` — what is written of a binary64 number spells a numeral.
-/

import LogProbe.Proofs.Json.Integer

namespace LogProbe

namespace Json

/-! ### Digits -/

/-- Digits, at least one. -/
structure IsDigits (chars : List Char) : Prop where
  some : chars ≠ []
  all : ∀ c ∈ chars, c.isDigit = true

theorem isDigits_toDigits (n : Nat) : IsDigits (Nat.toDigits 10 n) := by
  obtain ⟨c, rest, digits, -⟩ := exists_toDigits_eq n
  exact ⟨by rw [digits]; exact List.cons_ne_nil c rest, isDigit_of_mem_toDigits⟩

/-! ### The parts of a numeral -/

/-- The characters of a whole part: a zero in front stands alone. -/
structure IsWholePart (chars : List Char) : Prop where
  digits : IsDigits chars
  leading : chars.head? = some '0' → chars = ['0']

/-- The characters of a fraction, or none. -/
inductive IsFraction : List Char → Prop
  | none : IsFraction []
  | some {chars : List Char} (digits : IsDigits chars) : IsFraction ('.' :: chars)

/-- The characters of an exponent, or none. -/
inductive IsExponent : List Char → Prop
  | none : IsExponent []
  | some {sign : Char} (signed : sign = '+' ∨ sign = '-') {chars : List Char}
      (digits : IsDigits chars) : IsExponent ('e' :: sign :: chars)

/-- The characters of a numeral without its sign. -/
def IsNumeral (chars : List Char) : Prop :=
  ∃ whole fraction exponent, chars = whole ++ fraction ++ exponent ∧ IsWholePart whole ∧
    IsFraction fraction ∧ IsExponent exponent

theorem IsNumeral.of_parts {whole fraction exponent : List Char} (isWhole : IsWholePart whole)
    (isFraction : IsFraction fraction) (isExponent : IsExponent exponent) :
    IsNumeral (whole ++ fraction ++ exponent) :=
  ⟨whole, fraction, exponent, rfl, isWhole, isFraction, isExponent⟩

theorem IsFraction.exists_spells {chars : List Char} (fraction : IsFraction chars) :
    ∃ numbers, SpellsFraction numbers (Utf8.encode chars) := by
  cases fraction with
  | none => exact ⟨_, .absent⟩
  | some digits => exact ⟨_, .present (spellsDigits_encode digits.some digits.all)⟩

theorem IsExponent.exists_spells {chars : List Char} (exponent : IsExponent chars) :
    ∃ numbers, SpellsExponent numbers (Utf8.encode chars) := by
  cases exponent with
  | none => exact ⟨_, .absent⟩
  | some signed digits =>
    have spells := spellsDigits_encode digits.some digits.all
    rcases signed with rfl | rfl
    · exact ⟨_, .present (.inl rfl) .plus spells⟩
    · exact ⟨_, .present (.inl rfl) .minus spells⟩

/-- **The characters of a numeral spell one**, whatever its sign is. -/
theorem IsNumeral.exists_spells {chars : List Char} (numeral : IsNumeral chars) (negative : Bool) :
    ∃ read, SpellsUnsigned read (Utf8.encode chars) ∧ read.negative = negative := by
  obtain ⟨whole, fraction, exponent, rfl, isWhole, isFraction, isExponent⟩ := numeral
  have spellsWhole := spellsWhole_encode isWhole.digits.some isWhole.digits.all isWhole.leading
  obtain ⟨decimals, spellsFraction⟩ := isFraction.exists_spells
  obtain ⟨power, spellsExponent⟩ := isExponent.exists_spells
  rw [Utf8.encode_append, Utf8.encode_append, List.append_assoc]
  exact ⟨_, .of_parts spellsWhole spellsFraction spellsExponent negative, rfl⟩

end Json

/-! ### Shortest decimals -/

/-- Zeros at the end of the digits are not all of them. -/
theorem Decimal.digits_stripped {decimal : Decimal} (digits : decimal.digits ≠ 0) (fuel : Nat) :
    (decimal.stripped fuel).digits ≠ 0 := by
  induction fuel generalizing decimal with
  | zero => exact digits
  | succ fuel ih =>
    unfold stripped
    split
    · rename_i ends
      refine ih ?_
      show decimal.digits / 10 ≠ 0
      omega
    · exact digits

namespace Magnitude

/-- Zero does not read back as a magnitude that is not zero. -/
theorem holds_zero {value : Magnitude} (positive : value.significand ≠ 0) {den : Nat}
    (some : 0 < den) : value.interval.holds 0 den = false := by
  have low : 0 < value.interval.low := by
    unfold interval
    dsimp only
    split <;> omega
  have below : 0 < value.interval.low * den := Nat.mul_pos low some
  unfold Interval.holds
  split
  · rw [Bool.and_eq_false_iff]
    exact .inl (decide_eq_false (by omega))
  · rw [Bool.and_eq_false_iff]
    exact .inl (decide_eq_false (by omega))

/-- A decimal that reads back as a magnitude that is not zero has digits. -/
theorem digits_onGrid? {value : Magnitude} (positive : value.significand ≠ 0) {grid : Int}
    {decimal : Decimal} (found : value.onGrid? grid = some decimal) : decimal.digits ≠ 0 := by
  have positive (num den digits : Nat) (some : 0 < num)
      (holds : value.interval.holds (digits * den) num = true) : digits ≠ 0 := by
    rintro rfl
    rw [Nat.zero_mul, holds_zero positive some] at holds
    cases holds
  have some : 0 < (rescaled 1 1 (2 - value.exponent)).1 * Nat.pow 10 (-grid).toNat := by
    refine Nat.mul_pos (Nat.mul_pos Nat.one_pos ?_) ?_
    · exact Nat.pow_pos (by omega)
    · exact Nat.pow_pos (by omega)
  unfold onGrid? at found
  dsimp only at found
  split at found
  · cases found
  · rename_i below _
    cases found
    exact positive _ _ _ some below
  · cases found
    exact Nat.succ_ne_zero _
  · rename_i below _
    have inside := positive _ _ _ some below
    split at found
    · cases found
      exact inside
    split at found
    · cases found
      exact Nat.succ_ne_zero _
    · cases found
      exact fun zero => inside (Nat.eq_zero_of_add_eq_zero_right zero)

/-- **The shortest decimal has digits** unless it is a plain zero. -/
theorem digits_shortest (value : Magnitude) :
    value.shortest.digits ≠ 0 ∨ value.shortest.exponent = 0 := by
  unfold shortest
  by_cases zero : value.significand = 0
  · rw [if_pos zero]
    exact .inr rfl
  · rw [if_neg zero]
    dsimp only
    split
    · rename_i decimal found
      obtain ⟨size, -, onGrid⟩ := List.exists_of_findSome?_eq_some found
      exact .inl (Decimal.digits_stripped (digits_onGrid? zero onGrid) 20)
    · exact .inr rfl

end Magnitude

/-! ### Layouts -/

namespace Json

theorem isDigits_replicate_append {digits : List Char} (isDigits : IsDigits digits) (count : Nat) :
    IsDigits (List.replicate count '0' ++ digits) := by
  refine ⟨List.append_ne_nil_of_right_ne_nil _ isDigits.some, fun c member => ?_⟩
  rcases List.mem_append.mp member with zero | inside
  · rw [List.eq_of_mem_replicate zero]
    decide
  · exact isDigits.all c inside

/-- A single digit is a whole part. -/
theorem isWholePart_singleton {c : Char} (digit : c.isDigit = true) : IsWholePart [c] := by
  refine ⟨⟨List.cons_ne_nil c [], List.forall_mem_singleton.mpr digit⟩, fun zero => ?_⟩
  rw [Option.some.inj zero]

section

variable {c : Char} {rest : List Char} (isDigits : IsDigits (c :: rest))

include isDigits

/-- The digits behind the first one are a fraction. -/
theorem isFraction_tail : IsFraction (if rest = [] then [] else '.' :: rest) := by
  split
  · exact .none
  · rename_i tail
    exact .some ⟨tail, fun other member => isDigits.all other (List.mem_cons_of_mem c member)⟩

/-- The digits in front of the point, with zeros for those that there are not, are a whole part,
unless a zero stands in front of others. -/
theorem isWholePart_take {before : Nat} (lone : c = '0' → rest = [] ∧ before = 0) :
    IsWholePart ((c :: rest).take (before + 1) ++
      List.replicate (before + 1 - (c :: rest).length) '0') := by
  refine ⟨⟨List.append_ne_nil_of_left_ne_nil (List.cons_ne_nil _ _) _, fun d member => ?_⟩,
    fun zero => ?_⟩
  · rcases List.mem_append.mp member with inside | zero
    · exact isDigits.all d (List.mem_of_mem_take inside)
    · rw [List.eq_of_mem_replicate zero]
      decide
  · obtain ⟨rfl, rfl⟩ := lone (Option.some.inj zero)
    rw [show c = '0' from Option.some.inj zero]
    rfl

/-- The digits behind the point, or a zero if there are none, are a fraction. -/
theorem isFraction_drop (before : Nat) :
    IsFraction
      ('.' :: if (c :: rest).drop before = [] then ['0'] else (c :: rest).drop before) := by
  refine .some ?_
  split
  · exact ⟨List.cons_ne_nil _ _, List.forall_mem_singleton.mpr (by decide)⟩
  · rename_i tail
    exact ⟨tail, fun d member => isDigits.all d (List.mem_of_mem_drop member)⟩

end

/-- **A decimal is laid out as a numeral**, if it has digits or is a plain zero. -/
theorem isNumeral_chars (layout : RealLayout) {decimal : Decimal}
    (digits : decimal.digits ≠ 0 ∨ decimal.exponent = 0) : IsNumeral (layout.chars decimal) := by
  have isDigits := isDigits_toDigits decimal.digits
  obtain ⟨c, rest, chars, leading⟩ := exists_toDigits_eq decimal.digits
  unfold RealLayout.chars
  rw [chars] at isDigits ⊢
  dsimp only
  split
  · -- with an exponent: one digit, the others as a fraction, and the leading exponent
    have first : IsWholePart ((c :: rest).take 1) :=
      isWholePart_singleton (isDigits.all c List.mem_cons_self)
    rw [List.append_assoc (_ ++ _)]
    refine .of_parts first (isFraction_tail isDigits) (.some ?_ (isDigits_toDigits _))
    split
    · exact .inr rfl
    · exact .inl rfl
  split
  · -- below one: all digits in the fraction, behind the zeros that the leading exponent counts
    have parts (zeros : Nat) :=
      IsNumeral.of_parts (isWholePart_singleton (show '0'.isDigit = true by decide))
        (.some (isDigits_replicate_append isDigits zeros)) .none
    simp only [List.append_nil] at parts
    exact parts _
  · -- otherwise the leading exponent counts the digits in front of the point
    have lone : c = '0' → rest = [] ∧
        (decimal.exponent + ((c :: rest).length : Int) - 1).toNat = 0 := by
      intro zero
      obtain ⟨nothing, none⟩ := leading zero
      rw [none, digits.resolve_left (not_not_intro nothing)]
      exact ⟨rfl, rfl⟩
    have parts (before : Nat) := IsNumeral.of_parts (isWholePart_take isDigits lone)
      (isFraction_drop isDigits before) .none
    simp only [List.append_nil] at parts
    rw [List.append_assoc _ ['.']]
    exact parts _

/-- What is written of a binary64 number is a numeral behind its sign. -/
theorem exists_chars_real (value : Binary64) :
    ∃ chars, (Number.real value).chars = signedChars value.negative chars ∧ IsNumeral chars :=
  ⟨_, rfl, isNumeral_chars realLayout (Magnitude.digits_shortest value.magnitude)⟩

/-- **What is written of a binary64 number** spells a numeral. -/
theorem exists_spellsNumeral_real (value : Binary64) :
    ∃ numeral, SpellsNumeral numeral (Utf8.encode (Number.real value).chars) := by
  obtain ⟨chars, signed, isNumeral⟩ := exists_chars_real value
  obtain ⟨numeral, spells, sign⟩ := isNumeral.exists_spells value.negative
  exact ⟨numeral, _, spells, by rw [signed, encode_signedChars, sign]⟩

end Json

end LogProbe
