/-
**The substitution of bytes.** The table holds what it is known to hold: the inverse of each byte in
the field with 2^8 elements, under an affine map over its bits.

* `Aes.product` — the product in the field.
* `Aes.affine`, `Aes.preimage` — the affine map, and what it takes to a byte.
* `Aes.substitute_eq_affine` — the law.
-/

import LogProbe.Siv.Aes

namespace LogProbe.Aes

/-- The product of two bytes; the second one counts with its lowest `size` bits. -/
def times : Nat → UInt8 → UInt8 → UInt8
  | 0, _, _ => 0
  | size + 1, a, b => (if b % 2 = 1 then a else 0) ^^^ times size (double a) (b >>> 1)

/-- The product in the field with 2^8 elements. -/
def product (a b : UInt8) : UInt8 := times 8 a b

/-- The bits of a byte moved round to the left. -/
def rotated (byte : UInt8) (places : UInt8) : UInt8 := (byte <<< places) ||| (byte >>> (8 - places))

/-- The affine map over the bits of a byte. -/
def affine (byte : UInt8) : UInt8 :=
  byte ^^^ rotated byte 1 ^^^ rotated byte 2 ^^^ rotated byte 3 ^^^ rotated byte 4 ^^^ 0x63

/-- What the affine map takes to a byte. -/
def preimage (byte : UInt8) : UInt8 :=
  rotated byte 1 ^^^ rotated byte 3 ^^^ rotated byte 6 ^^^ 0x05

/-- The law for one byte, as a test. -/
def isInverted (byte : UInt8) : Bool :=
  let inner := preimage (substitute byte)
  affine inner == substitute byte && product byte inner == if byte = 0 then 0 else 1

theorem isInverted_all : (List.range 256).all (fun n => isInverted (UInt8.ofNat n)) = true := by
  decide +kernel

/-- **The substitution of a byte is the affine image of its inverse**; zero stays zero there. -/
theorem substitute_eq_affine (byte : UInt8) :
    ∃ inner, substitute byte = affine inner ∧
      product byte inner = if byte = 0 then 0 else 1 := by
  have all := List.all_eq_true.mp isInverted_all byte.toNat (List.mem_range.mpr byte.toNat_lt)
  rw [UInt8.ofNat_toNat] at all
  obtain ⟨mapped, inverted⟩ := Bool.and_eq_true_iff.mp all
  exact ⟨preimage (substitute byte), (beq_iff_eq.mp mapped).symm, beq_iff_eq.mp inverted⟩

end LogProbe.Aes
