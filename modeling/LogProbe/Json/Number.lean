/-
**Numbers of JSON.** A number without fraction and exponent that fits 64 bits, signed or unsigned,
is an integer; every other number is a binary64 number.

* `Json.Numeral.number?` — the number that a numeral denotes, or nothing past the largest one.
* `Json.Number.chars` — a number as it is written: integers in decimal, binary64 numbers by their
  shortest decimal in the layout `realLayout`.

A numeral is read with as many of its digits as stay below 2^64; those after them only count for
the power of ten. The digits and the power are rounded one after the other, so that the outcome
may differ from the closest binary64 number in its last place.
-/

import LogProbe.Decimal.Shortest
import LogProbe.Json.Document

namespace LogProbe.Json

/-- A number. -/
inductive Number where
  | integer (value : Int)
  | real (value : Binary64)
deriving DecidableEq

/-- As many digits in front as keep a number below 2^64, appended to it, and the digits left. -/
def absorb : Nat → List Nat → Nat × List Nat
  | value, [] => (value, [])
  | value, digit :: rest =>
    if value * 10 + digit < UInt64.size then absorb (value * 10 + digit) rest
    else (value, digit :: rest)

/-- The number of a list of digits. -/
def decimal (digits : List Nat) : Nat := digits.foldl (fun value digit => value * 10 + digit) 0

/-- From this number on an exponent is out of any range. -/
def exponentBound : Nat := Nat.pow 2 31

namespace Numeral

/-- The significand of a numeral and the power of ten that its digits imply. -/
def scaledDigits (numeral : Numeral) : Nat × Int :=
  let (significand, left) := absorb 0 numeral.whole
  match numeral.fraction with
  | none => (significand, left.length)
  | some fraction =>
    let (significand, unread) := absorb significand fraction
    (significand, (left.length : Int) - ((fraction.length : Int) - unread.length))

/-- The magnitude of a numeral that is no integer. -/
def magnitude? (numeral : Numeral) : Option Magnitude :=
  let (significand, power) := numeral.scaledDigits
  match numeral.exponent with
  | none => Magnitude.scaled? significand power
  | some (negative, digits) =>
    let exponent := decimal digits
    if exponentBound ≤ exponent then
      if significand ≠ 0 ∧ negative = false then none else some Magnitude.zero
    else Magnitude.scaled? significand (if negative then power - exponent else power + exponent)

/-- Whether a numeral has neither fraction nor exponent. -/
def isWhole (numeral : Numeral) : Bool := numeral.fraction.isNone && numeral.exponent.isNone

/-- The integer of a numeral that has neither fraction nor exponent and fits 64 bits. Minus zero
is no integer. -/
def integer? (numeral : Numeral) : Option Int :=
  let value := decimal numeral.whole
  if numeral.isWhole = false then none
  else if numeral.negative then
    if 0 < value ∧ value ≤ Nat.pow 2 63 then some (-(value : Int)) else none
  else if value < UInt64.size then some value
  else none

/-- The number of a numeral. -/
def number? (numeral : Numeral) : Option Number :=
  match numeral.integer? with
  | some value => some (.integer value)
  | none => do
    let magnitude ← numeral.magnitude?
    some (.real ⟨numeral.negative, magnitude⟩)

end Numeral

/-- How a binary64 number is laid out: the leading exponents, from `positionalFrom` up to but
without `positionalBelow`, for which it is written without an exponent. -/
structure RealLayout where
  positionalFrom : Int
  positionalBelow : Int

/-- Numbers from 0.00001 up to 10^16 are written without an exponent, and then with at least one
digit after the point. An exponent has a sign and no zeros in front. -/
def realLayout : RealLayout := ⟨-5, 16⟩

/-- A decimal in a layout. -/
def RealLayout.chars (layout : RealLayout) (value : Decimal) : List Char :=
  let digits := Nat.toDigits 10 value.digits
  let lead : Int := value.exponent + digits.length - 1
  if lead < layout.positionalFrom ∨ layout.positionalBelow ≤ lead then
    let tail := digits.drop 1
    let sign := if lead < 0 then '-' else '+'
    digits.take 1 ++ (if tail = [] then [] else '.' :: tail) ++ ['e', sign] ++
      Nat.toDigits 10 lead.natAbs
  else if lead < 0 then
    ['0', '.'] ++ List.replicate (lead.natAbs - 1) '0' ++ digits
  else
    let before := lead.toNat + 1
    let whole := digits.take before ++ List.replicate (before - digits.length) '0'
    let tail := digits.drop before
    whole ++ ['.'] ++ (if tail = [] then ['0'] else tail)

/-- A number as it is written. -/
def Number.chars : Number → List Char
  | .integer value =>
    if value < 0 then '-' :: Nat.toDigits 10 value.natAbs else Nat.toDigits 10 value.natAbs
  | .real value =>
    (if value.negative then ['-'] else []) ++ realLayout.chars value.magnitude.shortest

end LogProbe.Json
