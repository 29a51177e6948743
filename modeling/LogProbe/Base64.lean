/-
**Base64 with padding.** Four symbols of six bits stand for three bytes.

* `Base64.encode` — the text of a byte string, padded to whole blocks of four symbols.
* `Base64.decode?` — the bytes of a text made of whole blocks, each of them full or padded; the
  bits that a padded block leaves over are zero. A padded block may be followed by further ones.
-/

import LogProbe.Bytes

namespace LogProbe.Base64

/-- The symbol for six bits. -/
def symbol (bits : Nat) : Char :=
  if bits < 26 then Char.ofNat (65 + bits)
  else if bits < 52 then Char.ofNat (71 + bits)
  else if bits < 62 then Char.ofNat (bits - 4)
  else if bits = 62 then '+'
  else '/'

/-- The six bits of a symbol. -/
def bits? (c : Char) : Option Nat :=
  if 'A' ≤ c ∧ c ≤ 'Z' then some (c.toNat - 65)
  else if 'a' ≤ c ∧ c ≤ 'z' then some (c.toNat - 71)
  else if '0' ≤ c ∧ c ≤ '9' then some (c.toNat + 4)
  else if c = '+' then some 62
  else if c = '/' then some 63
  else none

/-- The symbols for a byte string, the last block padded with `=`. -/
def encodeChars : Bytes → List Char
  | [] => []
  | [a] => [symbol (a.toNat / 4), symbol (a.toNat % 4 * 16), '=', '=']
  | [a, b] =>
    [symbol (a.toNat / 4), symbol (a.toNat % 4 * 16 + b.toNat / 16), symbol (b.toNat % 16 * 4), '=']
  | a :: b :: c :: rest =>
    symbol (a.toNat / 4) :: symbol (a.toNat % 4 * 16 + b.toNat / 16) ::
      symbol (b.toNat % 16 * 4 + c.toNat / 64) :: symbol (c.toNat % 64) :: encodeChars rest

/-- The text of a byte string. -/
def encode (bytes : Bytes) : String := String.ofList (encodeChars bytes)

/-- The bytes of one block: three, or one or two if it is padded. -/
def decodeBlock? (a b c d : Char) : Option Bytes := do
  let x ← bits? a
  let y ← bits? b
  let first := UInt8.ofNat (x * 4 + y / 16)
  if c = '=' then
    if d = '=' ∧ y % 16 = 0 then some [first] else none
  else
    let z ← bits? c
    let second := UInt8.ofNat (y % 16 * 16 + z / 4)
    if d = '=' then
      if z % 4 = 0 then some [first, second] else none
    else
      let w ← bits? d
      some [first, second, UInt8.ofNat (z % 4 * 64 + w)]

/-- The bytes of a text of whole blocks. -/
def decodeChars? : List Char → Option Bytes
  | [] => some []
  | a :: b :: c :: d :: rest => do
    let block ← decodeBlock? a b c d
    let bytes ← decodeChars? rest
    some (block ++ bytes)
  | _ => none

/-- The bytes of a text. -/
def decode? (text : String) : Option Bytes := decodeChars? text.toList

end LogProbe.Base64
