/-
**JSON documents as written.** A document keeps what the grammar of JSON tells apart and decides
nothing else: numbers are digits, strings are pieces, members stand in their order and may repeat
a name. What a document means is settled by those who read values or records from it, so that a
part nobody looks at need not mean anything.

* `Json.Document` — the documents.
* `Json.Document.read?` — the document in a byte string, after the strict grammar: white space is
  space, tab, line feed and carriage return, and nothing follows the document but white space.
-/

import LogProbe.Bytes

namespace LogProbe.Json

/-- A number as written, digit by digit. -/
structure Numeral where
  negative : Bool
  whole : List Nat
  fraction : Option (List Nat)
  exponent : Option (Bool × List Nat)
deriving DecidableEq

/-- A piece of a string: a byte, or a UTF-16 unit given by its number. -/
inductive Piece where
  | byte (value : UInt8)
  | unit (code : Nat)
deriving DecidableEq

/-- A document. -/
inductive Document where
  | null
  | boolean (value : Bool)
  | number (numeral : Numeral)
  | string (pieces : List Piece)
  | array (items : List Document)
  | object (members : List (List Piece × Document))

/-- The code of an ASCII character. -/
def code (c : Char) : UInt8 := UInt8.ofNat c.toNat

/-- White space between the parts of a document. -/
def isBlank (byte : UInt8) : Bool := byte == 0x20 || byte == 0x09 || byte == 0x0A || byte == 0x0D

/-- A byte string from its first byte that is not white space. -/
def skipBlanks (bytes : Bytes) : Bytes := bytes.dropWhile isBlank

/-- The bytes after a word that they begin with. -/
def dropWord? (word : String) (bytes : Bytes) : Option Bytes :=
  let word := word.toList.map code
  if word.isPrefixOf bytes then some (bytes.drop word.length) else none

/-- A decimal digit. -/
def isDigit (byte : UInt8) : Bool := 0x30 ≤ byte && byte ≤ 0x39

/-- The value of a hexadecimal digit. -/
def hexValue? (byte : UInt8) : Option Nat :=
  if isDigit byte then some (byte.toNat - 48)
  else if 0x61 ≤ byte ∧ byte ≤ 0x66 then some (byte.toNat - 87)
  else if 0x41 ≤ byte ∧ byte ≤ 0x46 then some (byte.toNat - 55)
  else none

/-- The number of four hexadecimal digits. -/
def hexValue4? (a b c d : UInt8) : Option Nat := do
  let a ← hexValue? a
  let b ← hexValue? b
  let c ← hexValue? c
  let d ← hexValue? d
  some (((a * 16 + b) * 16 + c) * 16 + d)

/-- The byte that a letter after a backslash stands for. -/
def escaped? (mark : UInt8) : Option UInt8 :=
  if mark = code '"' then some mark
  else if mark = code '\\' then some mark
  else if mark = code '/' then some mark
  else if mark = code 'b' then some 0x08
  else if mark = code 'f' then some 0x0C
  else if mark = code 'n' then some 0x0A
  else if mark = code 'r' then some 0x0D
  else if mark = code 't' then some 0x09
  else none

/-- The pieces up to the closing quote, and the bytes after it. Control characters do not stand in
a string. -/
def readPieces? : Bytes → Option (List Piece × Bytes)
  | [] => none
  | byte :: rest =>
    if byte = code '"' then some ([], rest)
    else if byte = code '\\' then
      match rest with
      | [] => none
      | mark :: rest =>
        if mark = code 'u' then
          match rest with
          | a :: b :: c :: d :: rest => do
            let unit ← hexValue4? a b c d
            let (pieces, rest) ← readPieces? rest
            some (.unit unit :: pieces, rest)
          | _ => none
        else do
          let value ← escaped? mark
          let (pieces, rest) ← readPieces? rest
          some (.byte value :: pieces, rest)
    else if byte < 0x20 then none
    else do
      let (pieces, rest) ← readPieces? rest
      some (.byte byte :: pieces, rest)

/-- The digits at the head of a byte string, and the bytes after them. -/
def readDigits (bytes : Bytes) : List Nat × Bytes :=
  ((bytes.takeWhile isDigit).map fun byte => byte.toNat - 48, bytes.dropWhile isDigit)

/-- The digits at the head of a byte string, at least one. -/
def readSomeDigits? (bytes : Bytes) : Option (List Nat × Bytes) :=
  match readDigits bytes with
  | ([], _) => none
  | (digits, rest) => some (digits, rest)

/-- The digits of a whole part: no zero in front of another digit. -/
def readWhole? (bytes : Bytes) : Option (List Nat × Bytes) :=
  match readDigits bytes with
  | ([], _) => none
  | (0 :: _ :: _, _) => none
  | (digits, rest) => some (digits, rest)

/-- The fraction at the head of a byte string, if there is one: a point and at least one digit. -/
def readFraction? (bytes : Bytes) : Option (Option (List Nat) × Bytes) :=
  match bytes with
  | [] => some (none, [])
  | byte :: rest =>
    if byte = code '.' then do
      let (digits, rest) ← readSomeDigits? rest
      some (some digits, rest)
    else some (none, byte :: rest)

/-- The sign at the head of a byte string: whether it is a minus. -/
def readSign (bytes : Bytes) : Bool × Bytes :=
  match bytes with
  | [] => (false, [])
  | byte :: rest =>
    if byte = code '-' then (true, rest)
    else if byte = code '+' then (false, rest)
    else (false, byte :: rest)

/-- The exponent at the head of a byte string, if there is one: a letter, perhaps a sign, and at
least one digit. -/
def readExponent? (bytes : Bytes) : Option (Option (Bool × List Nat) × Bytes) :=
  match bytes with
  | [] => some (none, [])
  | byte :: rest =>
    if byte = code 'e' ∨ byte = code 'E' then do
      let (negative, rest) := readSign rest
      let (digits, rest) ← readSomeDigits? rest
      some (some (negative, digits), rest)
    else some (none, byte :: rest)

/-- The number after its sign. -/
def readUnsigned? (negative : Bool) (bytes : Bytes) : Option (Numeral × Bytes) := do
  let (whole, rest) ← readWhole? bytes
  let (fraction, rest) ← readFraction? rest
  let (exponent, rest) ← readExponent? rest
  some (⟨negative, whole, fraction, exponent⟩, rest)

mutual

/-- The document at the head of a byte string, and the bytes after it. `fuel` bounds the number of
documents, items and members that are entered. -/
def readDocument? : Nat → Bytes → Option (Document × Bytes)
  | 0, _ => none
  | fuel + 1, bytes =>
    match skipBlanks bytes with
    | [] => none
    | byte :: rest =>
      if byte = code '"' then do
        let (pieces, rest) ← readPieces? rest
        some (.string pieces, rest)
      else if byte = code '[' then
        match skipBlanks rest with
        | [] => none
        | next :: after =>
          if next = code ']' then some (.array [], after)
          else do
            let (items, rest) ← readItems? fuel (next :: after)
            some (.array items, rest)
      else if byte = code '\x7b' then
        match skipBlanks rest with
        | [] => none
        | next :: after =>
          if next = code '\x7d' then some (.object [], after)
          else do
            let (members, rest) ← readMembers? fuel (next :: after)
            some (.object members, rest)
      else if byte = code '-' then do
        let (numeral, rest) ← readUnsigned? true rest
        some (.number numeral, rest)
      else if isDigit byte then do
        let (numeral, rest) ← readUnsigned? false (byte :: rest)
        some (.number numeral, rest)
      else if byte = code 'n' then do
        let rest ← dropWord? "ull" rest
        some (.null, rest)
      else if byte = code 't' then do
        let rest ← dropWord? "rue" rest
        some (.boolean true, rest)
      else if byte = code 'f' then do
        let rest ← dropWord? "alse" rest
        some (.boolean false, rest)
      else none

/-- The items up to the closing bracket, at least one. -/
def readItems? : Nat → Bytes → Option (List Document × Bytes)
  | 0, _ => none
  | fuel + 1, bytes => do
    let (item, rest) ← readDocument? fuel bytes
    match skipBlanks rest with
    | [] => none
    | byte :: rest =>
      if byte = code ',' then do
        let (items, rest) ← readItems? fuel rest
        some (item :: items, rest)
      else if byte = code ']' then some ([item], rest)
      else none

/-- The members up to the closing brace, at least one. -/
def readMembers? : Nat → Bytes → Option (List (List Piece × Document) × Bytes)
  | 0, _ => none
  | fuel + 1, bytes =>
    match skipBlanks bytes with
    | [] => none
    | quote :: rest =>
      if quote = code '"' then do
        let (name, rest) ← readPieces? rest
        match skipBlanks rest with
        | [] => none
        | colon :: rest =>
          if colon = code ':' then do
            let (value, rest) ← readDocument? fuel rest
            match skipBlanks rest with
            | [] => none
            | byte :: rest =>
              if byte = code ',' then do
                let (members, rest) ← readMembers? fuel rest
                some ((name, value) :: members, rest)
              else if byte = code '\x7d' then some ([(name, value)], rest)
              else none
          else none
      else none

end

/-- The document in a byte string. Every document, item and member takes a byte at least. -/
def Document.read? (bytes : Bytes) : Option Document := do
  let (document, rest) ← readDocument? (2 * bytes.length + 1) bytes
  if skipBlanks rest = [] then some document else none

end LogProbe.Json
