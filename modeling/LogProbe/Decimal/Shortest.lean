/-
**The shortest decimal of a binary64 number.** Of the decimals that read back as a given
magnitude, the one with the fewest digits; of several with that many, the closest; of two equally
close ones, the one with the even last digit.

* `Decimal` — `digits * 10 ^ exponent`.
* `Magnitude.shortest` — that decimal. It tries one digit, then two, up to seventeen, and on each
  grid of decimals only the two neighbours of the magnitude, in exact arithmetic.
-/

import LogProbe.Decimal.Binary64

namespace LogProbe

/-- `digits * 10 ^ exponent`. -/
structure Decimal where
  digits : Nat
  exponent : Int
deriving DecidableEq

namespace Decimal

/-- The same number without zeros at the end of its digits. -/
def stripped : Nat → Decimal → Decimal
  | 0, decimal => decimal
  | fuel + 1, decimal =>
    if decimal.digits ≠ 0 ∧ decimal.digits % 10 = 0 then
      stripped fuel ⟨decimal.digits / 10, decimal.exponent + 1⟩
    else decimal

end Decimal

namespace Magnitude

/-- The exponent of the highest power of ten that is not above a positive fraction. -/
def decimalExponent (num den : Nat) : Int :=
  if den ≤ num then ((Nat.toDigits 10 (num / den)).length : Int) - 1
  else
    match (List.range 400).find? fun shift => den ≤ num * Nat.pow 10 (shift + 1) with
    | some shift => -((shift : Int) + 1)
    | none => -400

/-- The reals that read back as a magnitude, in quarters of its last place: from `low` to `high`,
and whether the two ends belong to them. -/
structure Interval where
  low : Nat
  high : Nat
  closed : Bool

/-- The interval of a magnitude. Below a power of two its lower half is half as wide. -/
def interval (value : Magnitude) : Interval where
  low :=
    if value.significand = Nat.pow 2 52 ∧ lowest < value.exponent then 4 * value.significand - 1
    else 4 * value.significand - 2
  high := 4 * value.significand + 2
  closed := value.significand % 2 = 0

/-- Whether the fraction `num / den` lies in an interval. -/
def Interval.holds (interval : Interval) (num den : Nat) : Bool :=
  if interval.closed then interval.low * den ≤ num && num ≤ interval.high * den
  else interval.low * den < num && num < interval.high * den

/-- The decimal with a given exponent that reads back and is the closest, if one reads back. -/
def onGrid? (value : Magnitude) (grid : Int) : Option Decimal :=
  let (num, den) := rescaled 1 1 (2 - value.exponent)
  let num := num * Nat.pow 10 (-grid).toNat
  let den := den * Nat.pow 10 grid.toNat
  let scaled := 4 * value.significand * num
  let below := scaled / den
  let holds (digits : Nat) : Bool := value.interval.holds (digits * den) num
  match holds below, holds (below + 1) with
  | false, false => none
  | true, false => some ⟨below, grid⟩
  | false, true => some ⟨below + 1, grid⟩
  | true, true =>
    let rest := scaled % den
    if 2 * rest < den then some ⟨below, grid⟩
    else if den < 2 * rest then some ⟨below + 1, grid⟩
    else some ⟨below + below % 2, grid⟩

/-- The shortest decimal of a magnitude. -/
def shortest (value : Magnitude) : Decimal :=
  if value.significand = 0 then ⟨0, 0⟩
  else
    let (num, den) := rescaled value.significand 1 (-value.exponent)
    let lead := decimalExponent num den
    match (List.range 17).findSome? fun (size : Nat) => value.onGrid? (lead - (size : Int)) with
    | some decimal => decimal.stripped 20
    | none => ⟨0, 0⟩

end Magnitude

end LogProbe
