/-
**Quoted texts.** A text between double quotes in which every character can be told apart.

* `Text.quoted` — the quoted form: the quote, the backslash and the common controls take a
  backslash, other characters without a mark of their own are shown by number, the rest stand.
-/

import LogProbe.Text.Hidden

namespace LogProbe.Text

/-- A character by its number in hexadecimal, between braces. -/
def byNumber (c : Char) : List Char :=
  ['\\', 'u', '\x7b'] ++ Nat.toDigits 16 c.toNat ++ ['\x7d']

/-- How a character stands in a quoted text. -/
def quotedChar (c : Char) : List Char :=
  match c with
  | '\x00' => ['\\', '0']
  | '\t' => ['\\', 't']
  | '\n' => ['\\', 'n']
  | '\r' => ['\\', 'r']
  | '"' => ['\\', '"']
  | '\\' => ['\\', '\\']
  | c => if c.toNat < 0x20 || isHidden c then byNumber c else [c]

/-- A text between double quotes, each character in its quoted form. -/
def quoted (text : String) : String :=
  String.ofList ('"' :: text.toList.flatMap quotedChar ++ ['"'])

end LogProbe.Text
