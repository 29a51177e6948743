/-
**Percent encoding.** A byte is written as `%` and two upper-case hexadecimal digits where its
character may not stand in a part of a URL. Each part has a set of such characters.

* `Percent.Set` — the sets of the parts, each an extension of a smaller one.
* `Percent.encode` — a text with the characters of a set, and all outside ASCII, encoded.
* `Percent.decode` — the bytes of an encoded text; a `%` that no two digits follow stands for
  itself.
* `Percent.formEncode` — the encoding of names and values in a query, with `+` for the space.
-/

import LogProbe.Text.Utf8

namespace LogProbe.Percent

/-- A set of ASCII characters that are encoded. -/
abbrev Set := Char → Bool

/-- The controls; characters outside ASCII are encoded everywhere. -/
def controls : Set := fun c => c.toNat < 0x20 || 0x7F ≤ c.toNat

/-- The characters that are encoded in a fragment. -/
def fragment : Set := fun c => controls c || [' ', '"', '<', '>', '\x60'].contains c

/-- The characters that are encoded in a path. -/
def path : Set := fun c => fragment c || ['#', '?', '\x7b', '\x7d'].contains c

/-- The characters that are encoded in a single component of a path. -/
def component : Set := fun c => path c || ['/', '%'].contains c

/-- The characters that are encoded in a component of a path that a backslash would divide. -/
def specialComponent : Set := fun c => component c || c == '\\'

/-- The characters that are encoded in a user name or password. -/
def userinfo : Set := fun c =>
  path c || ['/', ':', ';', '=', '@', '[', '\\', ']', '^', '|'].contains c

/-- The characters that are encoded in a query. -/
def query : Set := fun c => controls c || [' ', '"', '#', '<', '>'].contains c

/-- The characters that are encoded in the query of a URL with a special scheme. -/
def specialQuery : Set := fun c => query c || c == '\''

/-- An upper-case hexadecimal digit. -/
def digit (value : Nat) : Char := (Nat.digitChar value).toUpper

/-- A byte in encoded form. -/
def encodeByte (byte : UInt8) : List Char :=
  ['%', digit (byte.toNat / 16), digit (byte.toNat % 16)]

/-- A character: all its bytes encoded, or as it is. -/
def encodeChar (set : Set) (c : Char) : List Char :=
  if set c then (String.utf8EncodeChar c).flatMap encodeByte else [c]

/-- A text with the characters of a set encoded. -/
def encode (set : Set) (text : List Char) : List Char := text.flatMap (encodeChar set)

/-- The value of a hexadecimal digit of either case. -/
def digit? (c : Char) : Option Nat :=
  if '0' ≤ c ∧ c ≤ '9' then some (c.toNat - 48)
  else if 'a' ≤ c ∧ c ≤ 'f' then some (c.toNat - 87)
  else if 'A' ≤ c ∧ c ≤ 'F' then some (c.toNat - 55)
  else none

/-- The bytes of an encoded text. -/
def decode : List Char → Bytes
  | '%' :: a :: b :: rest =>
    match digit? a, digit? b with
    | some high, some low => UInt8.ofNat (16 * high + low) :: decode rest
    | _, _ => 0x25 :: decode (a :: b :: rest)
  | c :: rest => String.utf8EncodeChar c ++ decode rest
  | [] => []

/-- The characters that a form leaves as they are. -/
def isFormPlain (c : Char) : Bool := c.isAlphanum || ['*', '-', '.', '_'].contains c

/-- A name or value of a query. -/
def formEncode (text : List Char) : List Char :=
  text.flatMap fun c =>
    if c = ' ' then ['+']
    else if isFormPlain c then [c]
    else (String.utf8EncodeChar c).flatMap encodeByte

end LogProbe.Percent
