/-
**Numbers past the largest one.** A fraction is rounded past the largest magnitude exactly from the
number on that lies half a last place above it. Whether a number times a power of ten is in range
is thus told by the product of both, each of them rounded.

* `Magnitude.value`, `Magnitude.limit` — exact numbers, and the one from which on nothing is
  closest.
* `Magnitude.binaryExponent_spec` — the power of two below a fraction.
* `Magnitude.nearest?_eq_none_iff` — the fractions without a closest magnitude.
* `Magnitude.scaled?_eq_none_iff` — the numbers out of range.
-/

import LogProbe.Decimal.Binary64
import Mathlib.Algebra.Order.Field.Power
import Mathlib.Data.Rat.Cast.Order
import Mathlib.Tactic.Linarith
import Mathlib.Tactic.Positivity
import Mathlib.Tactic.FieldSimp
import Mathlib.Tactic.Ring

namespace LogProbe

namespace Magnitude

/-! ### Exact numbers -/

/-- The number of a magnitude. -/
def value (magnitude : Magnitude) : ℚ := magnitude.significand * (2 : ℚ) ^ magnitude.exponent

/-- The number half a last place above the largest magnitude, from which on numbers are rounded past
it. -/
def limit : ℚ := (2 ^ 54 - 1) * 2 ^ 970

theorem zpow_mul_pow (exponent : Int) (n : Nat) :
    (2 : ℚ) ^ exponent * 2 ^ n = 2 ^ (exponent + n) := by
  rw [zpow_add₀ two_ne_zero, zpow_natCast]

/-- The rescaled fraction, exactly. -/
theorem rescaled_div (num den : Nat) (exponent : Int) :
    ((rescaled num den exponent).1 : ℚ) / (rescaled num den exponent).2 =
      num / den / 2 ^ exponent := by
  have powers : (2 : ℚ) ^ exponent * 2 ^ (-exponent).toNat = 2 ^ exponent.toNat := by
    rw [zpow_mul_pow, ← zpow_natCast]
    congr 1
    omega
  show ((num * 2 ^ (-exponent).toNat : Nat) : ℚ) / (den * 2 ^ exponent.toNat : Nat) = _
  push_cast
  rw [← powers]
  field_simp

theorem rescaled_pos {den : Nat} (pos : 0 < den) (num : Nat) (exponent : Int) :
    0 < (rescaled num den exponent).2 := Nat.mul_pos pos (Nat.pow_pos (by omega))

variable {num den : Nat}

/-- A natural number lies between two powers of two. -/
theorem log2_spec (pos : 0 < num) : (2 : ℚ) ^ num.log2 ≤ num ∧ (num : ℚ) < 2 ^ (num.log2 + 1) := by
  exact_mod_cast And.intro (Nat.log2_self_le (Nat.ne_of_gt pos)) Nat.lt_log2_self

/-- **The binary exponent of a fraction** is that of the highest power of two which is not above
it. -/
theorem binaryExponent_spec (posNum : 0 < num) (posDen : 0 < den) :
    (2 : ℚ) ^ binaryExponent num den ≤ num / den ∧
      (num : ℚ) / den < 2 ^ (binaryExponent num den + 1) := by
  have pos : (0 : ℚ) < den := Nat.cast_pos.mpr posDen
  obtain ⟨numLow, numHigh⟩ := log2_spec posNum
  obtain ⟨denLow, denHigh⟩ := log2_spec posDen
  let guess : Int := (num.log2 : Int) - den.log2
  have power (shift : Int) : (0 : ℚ) ≤ 2 ^ shift := zpow_nonneg zero_le_two shift
  -- the guess is one too high at most
  have low : (2 : ℚ) ^ (guess - 1) ≤ num / den := by
    refine (le_div_iff₀ pos).mpr ?_
    calc (2 : ℚ) ^ (guess - 1) * den
        ≤ 2 ^ (guess - 1) * 2 ^ (den.log2 + 1) := mul_le_mul_of_nonneg_left denHigh.le (power _)
      _ = 2 ^ num.log2 := by
        rw [zpow_mul_pow, ← zpow_natCast]
        congr 1
        push_cast
        omega
      _ ≤ num := numLow
  have high : (num : ℚ) / den < 2 ^ (guess + 1) := by
    refine (div_lt_iff₀ pos).mpr ?_
    calc (num : ℚ) < 2 ^ (num.log2 + 1) := numHigh
      _ = 2 ^ (guess + 1) * 2 ^ den.log2 := by
        rw [zpow_mul_pow, ← zpow_natCast]
        congr 1
        push_cast
        omega
      _ ≤ 2 ^ (guess + 1) * den := mul_le_mul_of_nonneg_left denLow (power _)
  have cut : (rescaled num den guess).2 ≤ (rescaled num den guess).1 ↔
      (2 : ℚ) ^ guess ≤ num / den := by
    have one : (1 : ℚ) ≤ (rescaled num den guess).1 / (rescaled num den guess).2 ↔ _ :=
      one_le_div₀ (Nat.cast_pos.mpr (rescaled_pos posDen num guess))
    rw [← Nat.cast_le (α := ℚ), ← one, rescaled_div, one_le_div₀ (zpow_pos two_pos guess)]
  have made : binaryExponent num den =
      if (rescaled num den guess).2 ≤ (rescaled num den guess).1 then guess else guess - 1 := rfl
  rw [made]
  split
  · exact ⟨cut.mp ‹_›, high⟩
  · rw [sub_add_cancel]
    exact ⟨low, lt_of_not_ge fun above => ‹¬ _› (cut.mpr above)⟩

/-! ### Rounding -/

/-- Rounding reaches the number behind an odd one from half way on. -/
theorem succ_le_roundHalfEven_iff {odd : Nat} (isOdd : odd % 2 = 1) (pos : 0 < den) :
    odd + 1 ≤ roundHalfEven num den ↔ (2 * odd + 1) * den ≤ 2 * num := by
  have split := Nat.div_add_mod num den
  have small := Nat.mod_lt num pos
  have half : (2 * odd + 1) * den = 2 * (den * odd) + den := by ring
  unfold roundHalfEven
  generalize num / den = quotient at split ⊢
  generalize num % den = rest at split small ⊢
  simp only [half]
  rcases Nat.lt_trichotomy quotient odd with below | rfl | above
  · have gap : den * (quotient + 1) ≤ den * odd := Nat.mul_le_mul_left den below
    rw [Nat.mul_succ] at gap
    split_ifs <;> omega
  · split_ifs <;> omega
  · have gap : den * (odd + 1) ≤ den * quotient := Nat.mul_le_mul_left den above
    rw [Nat.mul_succ] at gap
    split_ifs <;> omega

/-- Rounding does not leave the numbers up to a given one. -/
theorem roundHalfEven_le {n : Nat} (below : num < n * den) : roundHalfEven num den ≤ n := by
  have quotient : num / den < n := Nat.div_lt_of_lt_mul (by rwa [Nat.mul_comm])
  unfold roundHalfEven
  simp only
  split_ifs <;> omega

theorem le_roundHalfEven {n : Nat} (pos : 0 < den) (above : n * den ≤ num) :
    n ≤ roundHalfEven num den := by
  have quotient : n ≤ num / den := (Nat.le_div_iff_mul_le pos).mpr above
  unfold roundHalfEven
  simp only
  split_ifs <;> omega

/-! ### The closest magnitude -/

/-- A magnitude up to the largest one. -/
structure IsFinite (magnitude : Magnitude) : Prop where
  significand : magnitude.significand < 2 ^ 53
  exponent : magnitude.exponent ≤ highest

theorem IsFinite.value_lt {magnitude : Magnitude} (finite : magnitude.IsFinite) :
    magnitude.value < limit := by
  have significand : (magnitude.significand : ℚ) + 1 ≤ 2 ^ 53 := by
    exact_mod_cast finite.significand
  have power : (2 : ℚ) ^ magnitude.exponent ≤ 2 ^ (970 + 1) := by
    rw [← zpow_natCast]
    exact zpow_le_zpow_right₀ one_le_two finite.exponent
  calc magnitude.value ≤ (2 ^ 53 - 1) * 2 ^ (970 + 1) :=
        mul_le_mul (by linarith) power (zpow_nonneg zero_le_two _) (by norm_num)
    _ = (2 ^ 54 - 2) * 2 ^ 970 := by
        rw [pow_succ (2 : ℚ) 970]
        generalize (2 : ℚ) ^ 970 = unit
        ring
    _ < limit := mul_lt_mul_of_pos_right (by norm_num) (pow_pos two_pos 970)

/-- What is rounded, and to which exponent: the significand before it is checked, and the fraction
that it is closest to. -/
theorem exists_nearest?_eq (posNum : 0 < num) (posDen : 0 < den) :
    ∃ (exponent : Int) (a b : Nat), exponent = max (binaryExponent num den - 52) lowest ∧ 0 < b ∧
      (a : ℚ) / b = num / den / 2 ^ exponent ∧
      nearest? num den =
        if roundHalfEven a b = 2 ^ 53 then
          if highest < exponent + 1 then none else some ⟨2 ^ 52, exponent + 1⟩
        else if highest < exponent then none else some ⟨roundHalfEven a b, exponent⟩ := by
  refine ⟨_, _, _, rfl, rescaled_pos posDen num _, rescaled_div num den _, ?_⟩
  unfold nearest?
  rw [if_neg (Nat.ne_of_gt posNum)]
  simp only [show Nat.pow 2 53 = 2 ^ 53 from rfl, show Nat.pow 2 52 = 2 ^ 52 from rfl]
  split
  · rfl
  · rfl

/-- The significand fits 53 bits, or is the first number that does not. -/
theorem lt_of_eq_max {exponent : Int} {a b : Nat} (posNum : 0 < num) (posDen : 0 < den)
    (isMax : exponent = max (binaryExponent num den - 52) lowest) (pos : 0 < b)
    (fraction : (a : ℚ) / b = num / den / 2 ^ exponent) : a < 2 ^ 53 * b := by
  have power : (0 : ℚ) < 2 ^ exponent := zpow_pos two_pos exponent
  have below : (a : ℚ) / b < 2 ^ 53 := by
    rw [fraction, div_lt_iff₀ power, mul_comm, zpow_mul_pow]
    refine lt_of_lt_of_le (binaryExponent_spec posNum posDen).2
      (zpow_le_zpow_right₀ one_le_two ?_)
    push_cast
    omega
  rw [div_lt_iff₀ (Nat.cast_pos.mpr pos)] at below
  exact_mod_cast below

theorem limit_bounds : (2 : ℚ) ^ (1023 : Int) ≤ limit ∧ limit ≤ 2 ^ (1024 : Int) := by
  have split (n : Nat) : (2 : ℚ) ^ ((970 + n : Nat) : Int) = 2 ^ n * 2 ^ 970 := by
    rw [zpow_natCast, pow_add, mul_comm]
  have unit : (0 : ℚ) ≤ 2 ^ 970 := (pow_pos two_pos 970).le
  rw [show (1023 : Int) = (970 + 53 : Nat) from rfl, show (1024 : Int) = (970 + 54 : Nat) from rfl,
    split, split]
  exact ⟨mul_le_mul_of_nonneg_right (by norm_num) unit,
    mul_le_mul_of_nonneg_right (by norm_num) unit⟩

/-- **A fraction is rounded past the largest magnitude exactly from the limit on.** The binary
exponent decides, unless it is the highest one: there the significand is rounded up to the next
power of two. -/
theorem nearest?_eq_none_iff (posDen : 0 < den) :
    nearest? num den = none ↔ limit ≤ (num : ℚ) / den := by
  have positive : (0 : ℚ) < limit := lt_of_lt_of_le (zpow_pos two_pos _) limit_bounds.1
  rcases Nat.eq_zero_or_pos num with rfl | posNum
  · rw [Nat.cast_zero, zero_div]
    exact ⟨nofun, fun below => absurd positive (not_lt.mpr below)⟩
  obtain ⟨exponent, a, b, isMax, pos, fraction, made⟩ := exists_nearest?_eq posNum posDen
  obtain ⟨low, high⟩ := binaryExponent_spec posNum posDen
  have atMost : roundHalfEven a b ≤ 2 ^ 53 :=
    roundHalfEven_le (lt_of_eq_max posNum posDen isMax pos fraction)
  have highest : highest = 971 := rfl
  have lowest : lowest = -1074 := rfl
  rw [made, highest]
  rcases Int.lt_trichotomy (binaryExponent num den) 1023 with below | same | above
  · have small : (num : ℚ) / den < limit := high.trans_le
      ((zpow_le_zpow_right₀ one_le_two (by omega)).trans limit_bounds.1)
    refine iff_of_false ?_ (not_le.mpr small)
    rw [if_neg (show ¬ 971 < exponent + 1 by omega), if_neg (show ¬ 971 < exponent by omega)]
    split <;> exact nofun
  · have at971 : exponent = 971 := by omega
    have reaches : 2 ^ 53 - 1 + 1 ≤ roundHalfEven a b ↔ (2 * (2 ^ 53 - 1) + 1) * b ≤ 2 * a :=
      succ_le_roundHalfEven_iff (by norm_num) pos
    have half : limit ≤ (num : ℚ) / den ↔ (2 * (2 ^ 53 - 1) + 1) * b ≤ 2 * a := by
      have whole : (num : ℚ) / den = a / b * 2 * 2 ^ 970 := by
        have unit : (2 : ℚ) ^ (971 : Int) = 2 * 2 ^ 970 := by
          rw [show (971 : Int) = (970 + 1 : Nat) from rfl, zpow_natCast, pow_succ, mul_comm]
        rw [fraction, at971, mul_assoc, ← unit, div_mul_cancel₀ _ (zpow_ne_zero _ two_ne_zero)]
      rw [whole, limit, mul_le_mul_iff_left₀ (pow_pos two_pos 970), div_mul_eq_mul_div,
        le_div_iff₀ (Nat.cast_pos.mpr pos), mul_comm (a : ℚ)]
      norm_num
      exact_mod_cast Iff.rfl
    rw [half, ← reaches, if_pos (show 971 < exponent + 1 by omega),
      if_neg (show ¬ 971 < exponent by omega)]
    split
    · rename_i power
      exact iff_of_true rfl (by rw [power]; norm_num)
    · rename_i other
      exact iff_of_false nofun fun reached => other (by omega)
  · have large : limit ≤ (num : ℚ) / den := limit_bounds.2.trans
      ((zpow_le_zpow_right₀ one_le_two (by omega)).trans low)
    refine iff_of_true ?_ large
    rw [if_pos (show 971 < exponent + 1 by omega), if_pos (show 971 < exponent by omega)]
    split <;> rfl

/-- The significand of a fraction that is not below one has 53 bits. -/
theorem le_of_eq_max {exponent : Int} {a b : Nat} (posDen : 0 < den) (above : den ≤ num)
    (isMax : exponent = max (binaryExponent num den - 52) lowest) (pos : 0 < b)
    (fraction : (a : ℚ) / b = num / den / 2 ^ exponent) : 2 ^ 52 * b ≤ a ∧ -52 ≤ exponent := by
  obtain ⟨low, high⟩ := binaryExponent_spec (Nat.lt_of_lt_of_le posDen above) posDen
  have one : (1 : ℚ) ≤ num / den :=
    (one_le_div₀ (Nat.cast_pos.mpr posDen)).mpr (Nat.cast_le.mpr above)
  have notBelow : 0 ≤ binaryExponent num den := by
    have least := (zpow_lt_zpow_iff_right₀ one_lt_two).mp
      (show (2 : ℚ) ^ (0 : Int) < 2 ^ (binaryExponent num den + 1) by
        rw [zpow_zero]
        exact one.trans_lt high)
    omega
  have lowest : lowest = -1074 := rfl
  refine ⟨?_, by omega⟩
  have enough : (2 : ℚ) ^ 52 ≤ a / b := by
    rw [fraction, le_div_iff₀ (zpow_pos two_pos _), mul_comm, zpow_mul_pow]
    refine le_trans (zpow_le_zpow_right₀ one_le_two ?_) low
    push_cast
    omega
  rw [le_div_iff₀ (Nat.cast_pos.mpr pos)] at enough
  exact_mod_cast enough

theorem one_le_value {magnitude : Magnitude} (significand : 2 ^ 52 ≤ magnitude.significand)
    (exponent : -52 ≤ magnitude.exponent) : 1 ≤ magnitude.value := by
  have significand : (2 : ℚ) ^ 52 ≤ magnitude.significand := by exact_mod_cast significand
  calc (1 : ℚ) = 2 ^ 52 * 2 ^ (-52 : Int) := by
        rw [zpow_neg, ← zpow_natCast (2 : ℚ) 52]
        exact (mul_inv_cancel₀ (zpow_ne_zero _ two_ne_zero)).symm
    _ ≤ magnitude.value := mul_le_mul significand (zpow_le_zpow_right₀ one_le_two exponent)
        (zpow_nonneg zero_le_two _) (Nat.cast_nonneg _)

/-- **The closest magnitude is finite**, and it is one at least if the fraction is. -/
theorem isFinite_of_nearest? (posDen : 0 < den) {magnitude : Magnitude}
    (rounded : nearest? num den = some magnitude) :
    magnitude.IsFinite ∧ (den ≤ num → 1 ≤ magnitude.value) := by
  rcases Nat.eq_zero_or_pos num with rfl | posNum
  · cases rounded
    exact ⟨⟨by decide, by decide⟩, fun above => absurd posDen (by omega)⟩
  obtain ⟨exponent, a, b, isMax, pos, fraction, made⟩ := exists_nearest?_eq posNum posDen
  have atMost : roundHalfEven a b ≤ 2 ^ 53 :=
    roundHalfEven_le (lt_of_eq_max posNum posDen isMax pos fraction)
  rw [made] at rounded
  split at rounded
  · obtain ⟨notHigh, built⟩ := Option.ite_none_left_eq_some.mp rounded
    cases built
    refine ⟨⟨by norm_num, not_lt.mp notHigh⟩, fun above => one_le_value le_rfl ?_⟩
    have least := (le_of_eq_max posDen above isMax pos fraction).2
    show -52 ≤ exponent + 1
    omega
  · rename_i fits
    obtain ⟨notHigh, built⟩ := Option.ite_none_left_eq_some.mp rounded
    cases built
    refine ⟨⟨lt_of_le_of_ne atMost fits, not_lt.mp notHigh⟩, fun above => ?_⟩
    obtain ⟨enough, least⟩ := le_of_eq_max posDen above isMax pos fraction
    exact one_le_value (le_roundHalfEven pos enough) least

/-! ### Products and quotients -/

/-- **A product is rounded past the largest magnitude exactly from the limit on.** -/
theorem mul?_eq_none_iff {a b : Magnitude} : a.mul? b = none ↔ limit ≤ a.value * b.value := by
  have exact : ((a.significand * b.significand : Nat) : ℚ) / (1 : Nat) /
      2 ^ (-(a.exponent + b.exponent)) = a.value * b.value := by
    unfold value
    rw [zpow_neg, div_inv_eq_mul, Nat.cast_one, div_one, zpow_add₀ two_ne_zero]
    push_cast
    ring
  have pos := rescaled_pos Nat.one_pos (a.significand * b.significand) (-(a.exponent + b.exponent))
  rw [← exact, ← rescaled_div]
  exact nearest?_eq_none_iff pos

/-- A finite magnitude divided by one that is one at least is finite. -/
theorem exists_div?_eq {a b : Magnitude} (finite : a.IsFinite) (divisor : 1 ≤ b.value) :
    ∃ quotient, a.div? b = some quotient ∧ quotient.IsFinite := by
  have solid : 0 < b.significand := by
    refine Nat.pos_of_ne_zero fun zero => ?_
    rw [value, zero, Nat.cast_zero, zero_mul] at divisor
    exact absurd divisor (by norm_num)
  have exact : (a.significand : ℚ) / b.significand / 2 ^ (b.exponent - a.exponent) =
      a.value / b.value := by
    unfold value
    rw [zpow_sub₀ two_ne_zero]
    field_simp
  have pos := rescaled_pos solid a.significand (b.exponent - a.exponent)
  cases made : a.div? b with
  | some quotient => exact ⟨quotient, rfl, (isFinite_of_nearest? pos made).1⟩
  | none =>
    have past : limit ≤ ((rescaled a.significand b.significand (b.exponent - a.exponent)).1 : ℚ) /
        (rescaled a.significand b.significand (b.exponent - a.exponent)).2 :=
      (nearest?_eq_none_iff pos).mp made
    rw [rescaled_div, exact] at past
    have nonneg : 0 ≤ a.value := mul_nonneg (Nat.cast_nonneg _) (zpow_nonneg zero_le_two _)
    exact absurd (past.trans (div_le_self nonneg divisor)) (not_le.mpr finite.value_lt)

/-- The powers of ten up to the highest one are rounded to magnitudes. -/
theorem exists_powerOfTen?_eq {power : Nat} (small : power ≤ highestTen) :
    ∃ magnitude, powerOfTen? power = some magnitude ∧ 1 ≤ magnitude.value := by
  have below : ((10 ^ power : Nat) : ℚ) / (1 : Nat) < limit := by
    have highest : (10 : ℚ) ^ 308 + 2 ^ 970 < 2 ^ 54 * 2 ^ 970 := by
      exact_mod_cast (by decide +kernel : 10 ^ 308 + 2 ^ 970 < 2 ^ 54 * 2 ^ 970)
    rw [Nat.cast_one, div_one, limit, sub_mul, one_mul, Nat.cast_pow]
    exact (pow_le_pow_right₀ (by norm_num) small).trans_lt (lt_sub_iff_add_lt.mpr highest)
  cases made : powerOfTen? power with
  | none => exact absurd ((nearest?_eq_none_iff Nat.one_pos).mp made) (not_le.mpr below)
  | some magnitude =>
    exact ⟨magnitude, rfl, (isFinite_of_nearest? Nat.one_pos made).2 (Nat.pow_pos (by omega))⟩

/-- What is divided down stays finite. -/
theorem exists_dividedDown?_eq {magnitude : Magnitude} (finite : magnitude.IsFinite)
    (fuel power : Nat) : ∃ quotient, dividedDown? fuel magnitude power = some quotient := by
  induction fuel generalizing magnitude power with
  | zero => exact ⟨magnitude, rfl⟩
  | succ fuel ih =>
    rw [dividedDown?]
    split
    · exact ⟨magnitude, rfl⟩
    split
    · rename_i small
      obtain ⟨ten, made, one⟩ := exists_powerOfTen?_eq small
      obtain ⟨quotient, divided, -⟩ := exists_div?_eq finite one
      exact ⟨quotient, by rw [made]; exact divided⟩
    · obtain ⟨ten, made, one⟩ := exists_powerOfTen?_eq (le_refl highestTen)
      obtain ⟨quotient, divided, smaller⟩ := exists_div?_eq finite one
      obtain ⟨last, ends⟩ := ih smaller (power - highestTen)
      refine ⟨last, ?_⟩
      rw [made]
      simp only [Option.bind_eq_bind, Option.bind_some, divided, ends]

/-- A number below 2^64 is rounded to a magnitude, which is zero only if the number is. -/
theorem exists_nearest?_of_lt {significand : Nat} (small : significand < UInt64.size) :
    ∃ factor, nearest? significand 1 = some factor ∧
      (factor.significand = 0 ↔ significand = 0) := by
  cases made : nearest? significand 1 with
  | none =>
    have past := (nearest?_eq_none_iff Nat.one_pos).mp made
    rw [Nat.cast_one, div_one] at past
    have below : (significand : ℚ) < 2 ^ (64 : Int) := by exact_mod_cast small
    have wide : (2 : ℚ) ^ (64 : Int) ≤ 2 ^ (1023 : Int) :=
      zpow_le_zpow_right₀ one_le_two (by norm_num)
    exact absurd (limit_bounds.1.trans past) (not_le.mpr (below.trans_le wide))
  | some factor =>
    refine ⟨factor, rfl, fun zero => ?_, ?_⟩
    · refine by_contra fun other => ?_
      have one := (isFinite_of_nearest? Nat.one_pos made).2 (Nat.pos_of_ne_zero other)
      rw [value, zero, Nat.cast_zero, zero_mul] at one
      exact absurd one (by norm_num)
    · rintro rfl
      cases made
      rfl

/-- A number times a power of ten is too large: it is not zero, and the power is above the highest
one, or the product of both, each of them rounded, reaches the limit. -/
inductive IsTooLarge (significand : Nat) (power : Int) : Prop
  | power (solid : significand ≠ 0) (high : (highestTen : Int) < power)
  | product (nonneg : 0 ≤ power) (low : power ≤ highestTen) {factor ten : Magnitude}
      (rounded : nearest? significand 1 = some factor)
      (powered : powerOfTen? power.toNat = some ten) (past : limit ≤ factor.value * ten.value)

/-- **A number times a power of ten is out of range exactly if it is too large.** -/
theorem scaled?_eq_none_iff {significand : Nat} (small : significand < UInt64.size) {power : Int} :
    scaled? significand power = none ↔ IsTooLarge significand power := by
  obtain ⟨factor, rounded, zero⟩ := exists_nearest?_of_lt small
  have finite := (isFinite_of_nearest? Nat.one_pos rounded).1
  unfold scaled?
  rw [rounded]
  simp only [Option.bind_eq_bind, Option.bind_some]
  split
  · rename_i negative
    obtain ⟨quotient, divided⟩ := exists_dividedDown?_eq finite power.natAbs power.natAbs
    rw [divided]
    refine iff_of_false nofun fun large => ?_
    cases large with
    | power _ high => omega
    | product nonneg => omega
  split
  · rename_i low
    obtain ⟨ten, made, -⟩ := exists_powerOfTen?_eq low
    simp only [made, Option.bind_some, mul?_eq_none_iff]
    constructor
    · exact fun past => .product (by omega) (by omega) rounded made past
    · intro large
      cases large with
      | power _ high => omega
      | product _ _ same sameTen past =>
        cases rounded.symm.trans same
        cases made.symm.trans sameTen
        exact past
  · rename_i high
    split
    · rename_i nothing
      refine iff_of_false nofun fun large => ?_
      cases large with
      | power solid => exact solid (zero.mp nothing)
      | product _ low => omega
    · rename_i solid
      exact iff_of_true rfl (.power (fun none => solid (zero.mpr none)) (by omega))

end Magnitude

end LogProbe
