/-
**Finite numbers in the binary64 format.** A magnitude is `significand * 2 ^ exponent` with a
significand below 2^53 and an exponent from -1074 to 971; the significand is at least 2^52 unless
the exponent is the lowest one.

* `Magnitude.nearest?` — the magnitude closest to a fraction, ties to the even significand, or
  nothing past the largest one. It works on natural numbers alone.
* `Magnitude.mul?`, `Magnitude.div?` — the product and the quotient, rounded once.
* `Magnitude.scaled?` — a number below 2^64 times a power of ten.
-/

namespace LogProbe

/-- `significand * 2 ^ exponent`. -/
structure Magnitude where
  significand : Nat
  exponent : Int
deriving DecidableEq

/-- A signed magnitude. Zero has two signs. -/
structure Binary64 where
  negative : Bool
  magnitude : Magnitude
deriving DecidableEq

namespace Magnitude

/-- The lowest exponent. -/
def lowest : Int := -1074

/-- The highest exponent. -/
def highest : Int := 971

/-- Zero. -/
def zero : Magnitude := ⟨0, lowest⟩

/-- The fraction `num / den` divided by `2 ^ exponent`, again as a fraction. -/
def rescaled (num den : Nat) (exponent : Int) : Nat × Nat :=
  (num * Nat.pow 2 (-exponent).toNat, den * Nat.pow 2 exponent.toNat)

/-- The natural number closest to a fraction, ties to the even one. -/
def roundHalfEven (num den : Nat) : Nat :=
  let quotient := num / den
  let rest := num % den
  if 2 * rest < den then quotient
  else if den < 2 * rest then quotient + 1
  else quotient + quotient % 2

/-- The exponent of the highest power of two that is not above a positive fraction. -/
def binaryExponent (num den : Nat) : Int :=
  let guess : Int := (num.log2 : Int) - den.log2
  let (a, b) := rescaled num den guess
  if b ≤ a then guess else guess - 1

/-- The magnitude closest to a fraction. -/
def nearest? (num den : Nat) : Option Magnitude :=
  if num = 0 then some zero
  else
    let exponent := max (binaryExponent num den - 52) lowest
    let (a, b) := rescaled num den exponent
    let significand := roundHalfEven a b
    let rounded : Magnitude :=
      if significand = Nat.pow 2 53 then ⟨Nat.pow 2 52, exponent + 1⟩ else ⟨significand, exponent⟩
    if highest < rounded.exponent then none else some rounded

/-- The product, rounded. -/
def mul? (a b : Magnitude) : Option Magnitude :=
  let (num, den) := rescaled (a.significand * b.significand) 1 (-(a.exponent + b.exponent))
  nearest? num den

/-- The quotient, rounded; the divisor is not zero. -/
def div? (a b : Magnitude) : Option Magnitude :=
  let (num, den) := rescaled a.significand b.significand (b.exponent - a.exponent)
  nearest? num den

/-- The highest power of ten that is a magnitude. -/
def highestTen : Nat := 308

/-- A power of ten, rounded. -/
def powerOfTen? (power : Nat) : Option Magnitude := nearest? (Nat.pow 10 power) 1

/-- A magnitude divided by `10 ^ power`, in steps of at most `10 ^ 308`, each of them rounded. It
stops at zero. -/
def dividedDown? : Nat → Magnitude → Nat → Option Magnitude
  | 0, value, _ => some value
  | fuel + 1, value, power =>
    if value.significand = 0 then some value
    else if power ≤ highestTen then do value.div? (← powerOfTen? power)
    else do
      let value ← value.div? (← powerOfTen? highestTen)
      dividedDown? fuel value (power - highestTen)

/-- A natural number times a power of ten. The number is rounded first and the product or quotient
again; nothing if a factor or the product is past the largest magnitude. -/
def scaled? (significand : Nat) (power : Int) : Option Magnitude := do
  let value ← nearest? significand 1
  if power < 0 then dividedDown? power.natAbs value power.natAbs
  else if power.toNat ≤ highestTen then value.mul? (← powerOfTen? power.toNat)
  else if value.significand = 0 then some value
  else none

end Magnitude

end LogProbe
