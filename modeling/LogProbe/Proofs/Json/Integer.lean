/-
**Integers come back from JSON.** An integer is written by its decimal digits, the first of which is
zero only if it is the only one. Without a point or an exponent behind them they mean the same
integer again.

* `Json.spellsWhole_digits` — the digits of a number are a whole part.
* `Json.Numeral.Denotes` — a numeral is that of an integer.
* `Json.exists_spellsNumeral_integer` — what is written of an integer spells a numeral of it.
-/

import LogProbe.Proofs.Json.Token

namespace LogProbe.Json

/-! ### Digits -/

/-- The digits of a number, first digit first. -/
def digitsOf (n : Nat) : List Nat := (Nat.toDigits 10 n).map fun c => c.toNat - 48

/-- A digit is one byte, which is a digit again and has the same value. -/
theorem code_digit {c : Char} (digit : c.isDigit = true) :
    String.utf8EncodeChar c = [code c] ∧ isDigit (code c) = true ∧
      (code c).toNat - 48 = c.toNat - 48 := by
  obtain ⟨low, high⟩ : 48 ≤ c.toNat ∧ c.toNat ≤ 57 := Char.isDigit_iff_toNat.mp digit
  have number : (code c).toNat = c.toNat := Utf8.toNat_ofNat_of_lt (by omega)
  refine ⟨Utf8.utf8EncodeChar_of_lt_80 (by omega), ?_, by rw [number]⟩
  unfold isDigit
  simp only [UInt8.le_iff_toNat_le, number, Bool.and_eq_true, decide_eq_true_eq]
  exact ⟨low, high⟩

theorem encode_digits {digits : List Char} (all : ∀ c ∈ digits, c.isDigit = true) :
    Utf8.encode digits = digits.map code := by
  induction digits with
  | nil => rfl
  | cons c rest ih =>
    obtain ⟨first, others⟩ := List.forall_mem_cons.mp all
    unfold Utf8.encode at ih ⊢
    rw [List.flatMap_cons, (code_digit first).1, ih others]
    rfl

/-- Digits spell their values. -/
theorem spellsDigits_encode {digits : List Char} (nonempty : digits ≠ [])
    (all : ∀ c ∈ digits, c.isDigit = true) :
    SpellsDigits (digits.map fun c => c.toNat - 48) (Utf8.encode digits) := by
  rw [encode_digits all]
  refine ⟨mt List.map_eq_nil_iff.mp nonempty, fun byte member => ?_, ?_⟩
  · obtain ⟨c, inside, rfl⟩ := List.mem_map.mp member
    exact (code_digit (all c inside)).2.1
  · rw [List.map_map]
    exact List.map_congr_left fun c inside => (code_digit (all c inside)).2.2.symm

/-- Digits spell a whole part, if a zero in front stands alone. -/
theorem spellsWhole_encode {digits : List Char} (nonempty : digits ≠ [])
    (all : ∀ c ∈ digits, c.isDigit = true)
    (leading : digits.head? = some '0' → digits = ['0']) :
    SpellsWhole (digits.map fun c => c.toNat - 48) (Utf8.encode digits) := by
  refine ⟨spellsDigits_encode nonempty all, fun zero => ?_⟩
  obtain ⟨c, rest, rfl⟩ := List.exists_cons_of_ne_nil nonempty
  obtain ⟨low, -⟩ : 48 ≤ c.toNat ∧ c.toNat ≤ 57 :=
    Char.isDigit_iff_toNat.mp (all c List.mem_cons_self)
  have zero : c.toNat - 48 = 0 := Option.some.inj zero
  have same : c = '0' := Char.toNat_inj.mp (show c.toNat = 48 by omega)
  rw [leading (by rw [same, List.head?_cons])]
  rfl

/-- **The first digit of a number is zero only if it is the only one.** -/
theorem exists_toDigits_eq (n : Nat) :
    ∃ c rest, Nat.toDigits 10 n = c :: rest ∧ (c = '0' → n = 0 ∧ rest = []) := by
  induction n using Nat.strongRecOn with
  | ind n ih =>
    by_cases small : n < 10
    · refine ⟨_, [], Nat.toDigits_of_lt_base small, fun zero => ⟨?_, rfl⟩⟩
      exact Nat.digitChar_eq_zero.mp zero
    · obtain ⟨c, rest, digits, leading⟩ := ih (n / 10) (by omega)
      refine ⟨c, rest ++ [(n % 10).digitChar], ?_, fun zero => ?_⟩
      · rw [Nat.toDigits_of_base_le (by omega) (by omega), digits, List.cons_append]
      · have := (leading zero).1
        omega

theorem isDigit_of_mem_toDigits {n : Nat} : ∀ c ∈ Nat.toDigits 10 n, c.isDigit = true :=
  fun _ member => Nat.isDigit_of_mem_toDigits (by omega) (by omega) member

/-- The digits of a number denote it. -/
theorem decimal_digitsOf (n : Nat) : decimal (digitsOf n) = n := by
  have denoted : (Nat.toDigits 10 n).foldl (fun value c => 10 * value + (c.toNat - 48)) 0 = n := by
    have denoted := Nat.ofDigitChars_ten_toDigits (n := n)
    rwa [Nat.ofDigitChars_eq_foldl] at denoted
  unfold decimal digitsOf
  rw [List.foldl_map]
  simpa only [Nat.mul_comm] using denoted

/-! ### Numerals -/

/-- The digits of a number spell a whole part. -/
theorem spellsWhole_digits (n : Nat) :
    SpellsWhole (digitsOf n) (Utf8.encode (Nat.toDigits 10 n)) := by
  obtain ⟨c, rest, digits, leading⟩ := exists_toDigits_eq n
  refine spellsWhole_encode (by rw [digits]; exact List.cons_ne_nil c rest)
    isDigit_of_mem_toDigits fun zero => ?_
  rw [digits] at zero ⊢
  cases zero
  rw [(leading rfl).2]

/-! ### Integers -/

/-- The integers that fit 64 bits, signed or unsigned. -/
def Fits (value : Int) : Prop := -(Nat.pow 2 63 : Nat) ≤ value ∧ value < UInt64.size

/-- A numeral has neither fraction nor exponent, and its sign and digits are those of an integer. -/
structure Numeral.Denotes (numeral : Numeral) (value : Int) : Prop where
  isWhole : numeral.isWhole = true
  sign : numeral.negative = decide (value < 0)
  digits : decimal numeral.whole = value.natAbs

theorem denotes_digitsOf (value : Int) :
    Numeral.Denotes ⟨decide (value < 0), digitsOf value.natAbs, none, none⟩ value :=
  ⟨rfl, rfl, decimal_digitsOf value.natAbs⟩

/-- **A numeral of an integer that fits 64 bits denotes it.** -/
theorem Numeral.Denotes.integer? {numeral : Numeral} {value : Int} (denotes : numeral.Denotes value)
    (fits : Fits value) : numeral.integer? = some value := by
  obtain ⟨low, high⟩ := fits
  unfold Numeral.integer?
  simp only [denotes.isWhole, denotes.sign, denotes.digits, Bool.true_eq_false, if_false]
  by_cases negative : value < 0
  · rw [if_pos (decide_eq_true negative), if_pos (by omega)]
    congr 1
    omega
  · rw [if_neg (by simp [negative]), if_pos (by omega)]
    congr 1
    omega

/-- A number behind its sign. -/
def signedChars (negative : Bool) (chars : List Char) : List Char :=
  (if negative then ['-'] else []) ++ chars

theorem encode_signedChars (negative : Bool) (chars : List Char) :
    Utf8.encode (signedChars negative chars) =
      (if negative then [code '-'] else []) ++ Utf8.encode chars := by
  cases negative <;> rfl

theorem chars_integer (value : Int) :
    (Number.integer value).chars =
      signedChars (decide (value < 0)) (Nat.toDigits 10 value.natAbs) := by
  unfold Number.chars signedChars
  by_cases negative : value < 0
  · simp only [negative, decide_true, if_true, List.singleton_append]
  · simp only [negative, decide_false, Bool.false_eq_true, if_false, List.nil_append]

/-- **What is written of an integer** spells a numeral that denotes it. -/
theorem exists_spellsNumeral_integer (value : Int) :
    ∃ numeral, SpellsNumeral numeral (Utf8.encode (Number.integer value).chars) ∧
      numeral.Denotes value := by
  have spells := SpellsUnsigned.of_parts (spellsWhole_digits value.natAbs) .absent .absent
    (decide (value < 0))
  rw [List.append_nil, List.append_nil] at spells
  refine ⟨_, ⟨_, spells, ?_⟩, denotes_digitsOf value⟩
  rw [chars_integer, encode_signedChars]

end LogProbe.Json
