/-
**Byte strings.**

* `Bytes` — a byte string is a list of bytes, first byte first.
* `Bytes.xor` — combines two byte strings position by position, as far as the shorter one goes.
* `Bytes.bigEndian32`, `Bytes.ofNat`, `Bytes.toNat` — numbers in big-endian order.
* `Bytes.toHex` — two lower-case hexadecimal digits per byte.
-/

namespace LogProbe

/-- A byte string, first byte first. -/
abbrev Bytes := List UInt8

namespace Bytes

/-- Position by position exclusive or, as long as the shorter operand. -/
def xor (left right : Bytes) : Bytes := List.zipWith (fun a b => a ^^^ b) left right

/-- The four bytes of a 32-bit word, most significant first. -/
def bigEndian32 (word : UInt32) : Bytes :=
  [(word >>> 24).toUInt8, (word >>> 16).toUInt8, (word >>> 8).toUInt8, word.toUInt8]

/-- The number a byte string denotes in base 256, most significant byte first. -/
def toNat (bytes : Bytes) : Nat := bytes.foldl (fun value byte => 256 * value + byte.toNat) 0

/-- The lowest `size` bytes of a number, most significant first. -/
def ofNat : Nat → Nat → Bytes
  | 0, _ => []
  | size + 1, value => ofNat size (value / 256) ++ [UInt8.ofNat value]

/-- Two lower-case hexadecimal digits per byte. -/
def toHex (bytes : Bytes) : String :=
  String.ofList <| bytes.flatMap fun byte =>
    [Nat.digitChar (byte.toNat / 16), Nat.digitChar (byte.toNat % 16)]

theorem length_xor (left right : Bytes) :
    (xor left right).length = min left.length right.length := by
  simp [xor]

theorem length_ofNat (size value : Nat) : (ofNat size value).length = size := by
  induction size generalizing value with
  | zero => rfl
  | succ size ih => simp [ofNat, ih]

end Bytes

end LogProbe
