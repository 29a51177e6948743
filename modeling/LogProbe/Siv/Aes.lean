/-
**AES with keys of 256 bits.** The block cipher in its encrypting direction; the modes of this
library need no other.

* `Aes.substitute` — the substitution of a byte.
* `Aes.Schedule` — the fifteen round keys of a key.
* `Aes.encrypt` — the cipher.
-/

import LogProbe.Siv.Block

namespace LogProbe.Aes

/-- The product with x in the field with 2^8 elements, reduced by x^8 + x^4 + x^3 + x + 1. -/
def double (byte : UInt8) : UInt8 :=
  if byte < 0x80 then byte <<< 1 else (byte <<< 1) ^^^ 0x1B

/-- The substitution, sixteen bytes in each row. -/
def table : List Nat := [
  0x637c777bf26b6fc53001672bfed7ab76, 0xca82c97dfa5947f0add4a2af9ca472c0,
  0xb7fd9326363ff7cc34a5e5f171d83115, 0x04c723c31896059a071280e2eb27b275,
  0x09832c1a1b6e5aa0523bd6b329e32f84, 0x53d100ed20fcb15b6acbbe394a4c58cf,
  0xd0efaafb434d338545f9027f503c9fa8, 0x51a3408f929d38f5bcb6da2110fff3d2,
  0xcd0c13ec5f974417c4a77e3d645d1973, 0x60814fdc222a908846eeb814de5e0bdb,
  0xe0323a0a4906245cc2d3ac629195e479, 0xe7c8376d8dd54ea96c56f4ea657aae08,
  0xba78252e1ca6b4c6e8dd741f4bbd8b8a, 0x703eb5664803f60e613557b986c11d9e,
  0xe1f8981169d98e949b1e87e9ce5528df, 0x8ca1890dbfe6426841992d0fb054bb16]

/-- The substitution of a byte, looked up. -/
def substitute (byte : UInt8) : UInt8 :=
  UInt8.ofNat (table.getD (byte.toNat / 16) 0 >>> (8 * (15 - byte.toNat % 16)))

/-- Substitutes every byte, and moves row `r` of the columns `r` places to the left. -/
def shiftedRows (state : Block) : Block :=
  Vector.ofFn fun i : Fin 16 => substitute state[(i.val + 4 * (i.val % 4)) % 16]

/-- Multiplies every column by the circulant matrix of 2, 3, 1, 1. -/
def mixedColumns (state : Block) : Block :=
  Vector.ofFn fun i : Fin 16 =>
    let column := i.val / 4 * 4
    let a := state[(column + i.val % 4) % 16]
    let b := state[(column + (i.val + 1) % 4) % 16]
    let c := state[(column + (i.val + 2) % 4) % 16]
    let d := state[(column + (i.val + 3) % 4) % 16]
    double a ^^^ (double b ^^^ b) ^^^ c ^^^ d

/-- The round keys: one added before the first round, one for each full round, and one for the
round without mixing. -/
structure Schedule where
  first : Block
  rounds : List Block
  last : Block

/-- Four bytes of a key. -/
abbrev Word := Vector UInt8 4

/-- Byte by byte exclusive or. -/
def Word.xor (left right : Word) : Word := Vector.zipWith (fun a b => a ^^^ b) left right

/-- The substitution of every byte. -/
def Word.substitute (word : Word) : Word := word.map Aes.substitute

/-- The first byte moved to the end. -/
def Word.turned (word : Word) : Word := #v[word[1], word[2], word[3], word[0]]

/-- The eight words after the eight words `w`; `constant` marks the place in the sequence. -/
def nextWords (constant : UInt8) (w : Vector Word 8) : Vector Word 8 :=
  let w0 := w[0].xor (w[7].turned.substitute.xor #v[constant, 0, 0, 0])
  let w1 := w[1].xor w0
  let w2 := w[2].xor w1
  let w3 := w[3].xor w2
  let w4 := w[4].xor w3.substitute
  let w5 := w[5].xor w4
  let w6 := w[6].xor w5
  let w7 := w[7].xor w6
  #v[w0, w1, w2, w3, w4, w5, w6, w7]

/-- The two round keys in eight words. -/
def roundKeys (w : Vector Word 8) : List Block :=
  [w[0] ++ w[1] ++ w[2] ++ w[3], w[4] ++ w[5] ++ w[6] ++ w[7]]

/-- The round keys in `groups` successive groups of eight words. -/
def expanded : Nat → UInt8 → Vector Word 8 → List Block
  | 0, _, w => roundKeys w
  | groups + 1, constant, w =>
    roundKeys w ++ expanded groups (double constant) (nextWords constant w)

/-- The round keys of a key of thirty-two bytes; a shorter one is filled with zeros. -/
def Schedule.ofKey (key : Bytes) : Schedule :=
  let bytes := key.toArray
  let words : Vector Word 8 :=
    Vector.ofFn fun i : Fin 8 => Vector.ofFn fun j : Fin 4 => bytes.getD (4 * i + j) 0
  let keys := expanded 7 1 words
  ⟨keys.getD 0 Block.zero, (keys.drop 1).take 13, keys.getD 14 Block.zero⟩

/-- The cipher. -/
def encrypt (schedule : Schedule) (block : Block) : Block :=
  let state := schedule.rounds.foldl
    (fun state key => (mixedColumns (shiftedRows state)).xor key) (block.xor schedule.first)
  (shiftedRows state).xor schedule.last

end LogProbe.Aes
