/-
**Labels in Punycode.** A label of a domain that begins with `xn--` stands for a text that is not
ASCII. Behind that mark come the ASCII characters of the text, if there are any, and a hyphen. What
follows is a list of numbers to base 36, each of which says which character comes in next and where.

* `Url.Punycode.decode?` — the text of what follows the mark.
* `Url.Punycode.encode` — what follows the mark for a text.
-/

namespace LogProbe.Url.Punycode

/-- How far a label is read: the text so far, the last character that came in and the place behind
it, the bias of the numbers, and the number that is being read with the weight and the column of
its next digit. -/
structure Reader where
  text : List Char
  code : Nat
  place : Nat
  bias : Nat
  number : Nat
  weight : Nat
  column : Nat

/-- The value of a digit: the letters of either case come before the decimal ones. -/
def digit? (c : Char) : Option Nat :=
  if c.isLower then some (c.toNat - 97)
  else if c.isUpper then some (c.toNat - 65)
  else if c.isDigit then some (c.toNat - 22)
  else none

/-- A digit below the threshold is the last one of its number. -/
def threshold (bias column : Nat) : Nat := max 1 (min 26 (column - bias))

/-- The bias of a number whose size is like that of the last one. -/
def biasOf (size : Nat) : Nat :=
  if 455 < size then 36 + biasOf (size / 35) else 36 * size / (size + 38)
termination_by size
decreasing_by exact Nat.div_lt_self (by omega) (by omega)

/-- The bias after a number that leads on from a place in a text, which has the given length with
the character that comes in. -/
def biasAfter (number place length : Nat) : Nat :=
  let size := number / (if place = 0 then 700 else 2)
  biasOf (size + size / length)

/-- The text with the character that a number, now read to its end, stands for. -/
def Reader.insert? (reader : Reader) : Option Reader :=
  let length := reader.text.length + 1
  let steps := reader.place + reader.number
  let code := reader.code + steps / length
  let place := steps % length
  if code.isValidChar then
    some
      { text := reader.text.insertIdx place (Char.ofNat code)
        code := code
        place := place + 1
        bias := biasAfter reader.number reader.place length
        number := 0
        weight := 1
        column := 36 }
  else none

/-- One more digit. -/
def Reader.read? (reader : Reader) (c : Char) : Option Reader := do
  let digit ← digit? c
  let threshold := threshold reader.bias reader.column
  let reader := { reader with number := reader.number + digit * reader.weight }
  if digit < threshold then reader.insert?
  else
    some { reader with
      weight := reader.weight * (36 - threshold)
      column := reader.column + 36 }

/-- The ASCII characters in front of the last hyphen, if there are any, and the digits after it. -/
def parts (text : List Char) : List Char × List Char :=
  let digits := (text.reverse.takeWhile (· != '-')).reverse
  match text.take (text.length - digits.length - 1) with
  | [] => ([], text)
  | front => (front, digits)

/-- The text that a label stands for behind its mark; its last number has to be complete. -/
def decode? (text : List Char) : Option (List Char) := do
  let (front, digits) := parts text
  let reader ← digits.foldlM Reader.read? ⟨front, 0x80, 0, 72, 0, 1, 36⟩
  if reader.column = 36 then some reader.text else none

/-- A value as a digit. -/
def digit (value : Nat) : Char := Char.ofNat (if value < 26 then value + 97 else value + 22)

/-- The digits of a number from a column on. -/
def digits (bias column number : Nat) : List Char :=
  let least := threshold bias column
  if number < least then [digit number]
  else
    digit (least + (number - least) % (36 - least)) ::
      digits bias (column + 36) ((number - least) / (36 - least))
termination_by number
decreasing_by
  have positive : 1 ≤ least := Nat.le_max_left 1 _
  exact Nat.lt_of_le_of_lt (Nat.div_le_self _ _) (by omega)

/-- How far a text is written: the digits so far, how many characters are in it, the last one that
came in and the place behind it, and the bias of the next number. -/
structure Writer where
  digits : List Char
  length : Nat
  code : Nat
  place : Nat
  bias : Nat

/-- One more character, which comes in at a place. -/
def Writer.write (writer : Writer) (code place : Nat) : Writer :=
  let length := writer.length + 1
  let number := (code - writer.code) * length + place - writer.place
  { digits := writer.digits ++ Punycode.digits writer.bias 36 number
    length := length
    code := code
    place := place + 1
    bias := biasAfter number writer.place length }

/-- The places at which a character comes into a text, behind so many others that are in it by
then: those that come before it in the order of code points. -/
def places (code before : Nat) : List Char → List Nat
  | [] => []
  | c :: rest =>
    if c.toNat = code then before :: places code (before + 1) rest
    else places code (if c.toNat < code then before + 1 else before) rest

/-- The characters of a text outside ASCII, in the order of code points. -/
def codes (text : List Char) : List Nat :=
  ((text.map Char.toNat).filter (0x80 ≤ ·)).eraseDups.mergeSort

/-- A character of a text, wherever it comes in. -/
def Writer.writeAll (text : List Char) (writer : Writer) (code : Nat) : Writer :=
  (places code 0 text).foldl (fun writer place => writer.write code place) writer

/-- What follows the mark for a text. -/
def encode (text : List Char) : List Char :=
  let front := text.filter (·.toNat < 0x80)
  let writer := (codes text).foldl (Writer.writeAll text) ⟨[], front.length, 0x80, 0, 72⟩
  (if front = [] then [] else front ++ ['-']) ++ writer.digits

end LogProbe.Url.Punycode
