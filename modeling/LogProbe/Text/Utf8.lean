/-
**UTF-8, both ways.**

* `Utf8.encode` — the bytes of a text.
* `Utf8.scan` — what a byte string holds, read from the front: scalars, and in between the
  longest pieces that no scalar could have begun with, one entry for each.
* `Utf8.decode?` — the text of a byte string that holds scalars only.
* `Utf8.decodeLossy` — the text of any byte string, with U+FFFD for each piece that is no scalar.
-/

import LogProbe.Bytes

namespace LogProbe.Utf8

/-- The bytes of a text, one to four for each character. -/
def encode (text : List Char) : Bytes := text.flatMap String.utf8EncodeChar

/-- The bytes of a string. -/
def bytesOf (text : String) : Bytes := encode text.toList

/-- A byte that can only continue a scalar. -/
def isContinuation (byte : UInt8) : Bool := 0x80 ≤ byte && byte ≤ 0xBF

/-- How many bytes a scalar has that begins with `lead`, zero if none begins so. -/
def width (lead : UInt8) : Nat :=
  if lead < 0x80 then 1
  else if lead < 0xC2 then 0
  else if lead < 0xE0 then 2
  else if lead < 0xF0 then 3
  else if lead < 0xF5 then 4
  else 0

/-- Whether `second` may follow `lead`: overlong forms, surrogates and numbers past U+10FFFF are
cut off at the second byte. -/
def mayFollow (lead second : UInt8) : Bool :=
  if lead = 0xE0 then 0xA0 ≤ second && second ≤ 0xBF
  else if lead = 0xED then 0x80 ≤ second && second ≤ 0x9F
  else if lead = 0xF0 then 0x90 ≤ second && second ≤ 0xBF
  else if lead = 0xF4 then 0x80 ≤ second && second ≤ 0x8F
  else isContinuation second

/-- The scalar spelled by a lead byte and the continuation bytes after it. -/
def scalar (leadBits : Nat) (continuation : Bytes) : Char :=
  Char.ofNat (continuation.foldl (fun value byte => 64 * value + byte.toNat % 64) leadBits)

/-- The scalars of a byte string in order, and `none` for each longest piece that is the beginning
of a scalar or a byte that begins none. -/
def scan : Bytes → List (Option Char)
  | [] => []
  | a :: rest =>
    if width a = 1 then some (scalar a.toNat []) :: scan rest
    else if width a = 0 then none :: scan rest
    else
      match rest with
      | [] => [none]
      | b :: rest =>
        if mayFollow a b = false then none :: scan (b :: rest)
        else if width a = 2 then some (scalar (a.toNat % 32) [b]) :: scan rest
        else
          match rest with
          | [] => [none]
          | c :: rest =>
            if isContinuation c = false then none :: scan (c :: rest)
            else if width a = 3 then some (scalar (a.toNat % 16) [b, c]) :: scan rest
            else
              match rest with
              | [] => [none]
              | d :: rest =>
                if isContinuation d = false then none :: scan (d :: rest)
                else some (scalar (a.toNat % 8) [b, c, d]) :: scan rest

/-- The text of a byte string, if it is scalars throughout. -/
def decode? (bytes : Bytes) : Option (List Char) := (scan bytes).mapM id

/-- The text of a byte string, each piece that is no scalar replaced by U+FFFD. -/
def decodeLossy (bytes : Bytes) : List Char := (scan bytes).map (·.getD '\uFFFD')

end LogProbe.Utf8
