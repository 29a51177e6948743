/-
**White space.**

* `Text.isBlank` — the characters with the Unicode property `White_Space`.
* `Text.trim` — a text without the white space at both ends.
* `Text.isAllBlank` — a text of white space only.
-/

namespace LogProbe.Text

/-- The characters with the Unicode property `White_Space`. -/
def isBlank (c : Char) : Bool :=
  let code := c.toNat
  (9 ≤ code && code ≤ 13) || code == 0x20 || code == 0x85 || code == 0xA0 || code == 0x1680 ||
    (0x2000 ≤ code && code ≤ 0x200A) || code == 0x2028 || code == 0x2029 || code == 0x202F ||
    code == 0x205F || code == 0x3000

/-- A text without the characters of a kind at its two ends. -/
def strip (kind : Char → Bool) (text : List Char) : List Char :=
  ((text.dropWhile kind).reverse.dropWhile kind).reverse

/-- A text without the white space at both ends. -/
def trim (text : String) : String := String.ofList (strip isBlank text.toList)

/-- Whether a text holds nothing but white space. -/
def isAllBlank (text : String) : Bool := text.toList.all isBlank

end LogProbe.Text
