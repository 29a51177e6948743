/-
**Variable-length integers.** Seven bits to a byte, lowest first; every byte but the last has its
top bit set.

* `Wire.writeVarint` — the shortest form of a number.
* `Wire.readVarint?` — the number at the head of a byte string and what follows it; at most ten
  bytes, and no more than 64 bits.
-/

import LogProbe.Bytes

namespace LogProbe.Wire

/-- The bytes of a number in at most `size + 1` groups of seven bits. -/
def writeGroups : Nat → Nat → Bytes
  | 0, value => [UInt8.ofNat value]
  | size + 1, value =>
    if value < 128 then [UInt8.ofNat value]
    else UInt8.ofNat (value % 128 + 128) :: writeGroups size (value / 128)

/-- The shortest form of a number below `2 ^ 70`. -/
def writeVarint (value : Nat) : Bytes := writeGroups 9 value

/-- The number in the groups at the head of a byte string, of which at most `size + 1` may come
and the last of those may hold one bit only. -/
def readGroups? : Nat → Bytes → Option (Nat × Bytes)
  | _, [] => none
  | 0, byte :: rest => if byte < 2 then some (byte.toNat, rest) else none
  | size + 1, byte :: rest =>
    if byte < 128 then some (byte.toNat, rest)
    else do
      let (higher, rest) ← readGroups? size rest
      some (byte.toNat % 128 + 128 * higher, rest)

/-- The number at the head of a byte string and the bytes after it. -/
def readVarint? (bytes : Bytes) : Option (Nat × Bytes) := readGroups? 9 bytes

end LogProbe.Wire
