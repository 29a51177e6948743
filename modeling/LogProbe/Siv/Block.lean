/-
**Blocks of sixteen bytes.**

* `Block` — a vector of sixteen bytes.
* `Block.xor`, `Block.double` — addition and doubling in the field with 2^128 elements, whose
  reduction polynomial is x^128 + x^7 + x^2 + x + 1.
* `Block.ofBytes`, `Block.padded` — a block from at most sixteen bytes, filled with zeros, or with
  one set bit and zeros.
* `Block.counted` — the block a number of steps after another one, in big-endian counting.
-/

import LogProbe.Bytes

namespace LogProbe

/-- Sixteen bytes. -/
abbrev Block := Vector UInt8 16

namespace Block

/-- The block of zeros. -/
def zero : Block := Vector.replicate 16 0

/-- Byte by byte exclusive or. -/
def xor (left right : Block) : Block := Vector.zipWith (fun a b => a ^^^ b) left right

/-- The first sixteen bytes of a byte string, filled with zeros at the end. -/
def ofBytes (bytes : Bytes) : Block :=
  let filled := (bytes.take 16 ++ List.replicate 16 0).toArray
  Vector.ofFn fun i : Fin 16 => filled.getD i 0

/-- At most fifteen bytes, then a byte with its top bit set, then zeros. -/
def padded (bytes : Bytes) : Block := ofBytes (bytes ++ [0x80])

/-- The number a block denotes, most significant byte first. -/
def toNat (block : Block) : Nat := Bytes.toNat block.toList

/-- The block of a number modulo 2^128. -/
def ofNat (value : Nat) : Block := ofBytes (Bytes.ofNat 16 value)

/-- The block `steps` after `start`; the count wraps at 2^128. -/
def counted (start : Block) (steps : Nat) : Block := ofNat (start.toNat + steps)

/-- The product with x: one bit to the left, and a bit that falls out comes back as 0x87. -/
def double (block : Block) : Block :=
  let shifted := 2 * block.toNat
  xor (ofNat shifted) (ofNat (if shifted < Nat.pow 2 128 then 0 else 0x87))

end Block

end LogProbe
