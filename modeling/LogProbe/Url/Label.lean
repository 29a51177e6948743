/-
**Labels of a domain.** A label stands for itself or, in Punycode, for a text that is not ASCII.
That text has to be what it would be written as: composed, without a character that folding replaces
or that shows nothing.

* `Url.Label.text?` — the text that a label stands for.
* `Url.Label.inAscii` — a label that stands for a text.
* `Url.Label.areNames` — whether all labels of a domain stand for texts and, where one of them runs
  from right to left, each of them has one direction.
-/

import LogProbe.Text.Composition
import LogProbe.Text.Direction
import LogProbe.Text.Folded
import LogProbe.Text.Hidden
import LogProbe.Text.Joining
import LogProbe.Url.Punycode

namespace LogProbe.Url.Label

open Text

/-- How many characters behind its mark a label in Punycode may have. -/
def maxEncoded : Nat := 2000

/-- How many characters the text of such a label may have. -/
def maxDecoded : Nat := 1000

/-- The character that keeps two letters from being joined. -/
def nonJoiner : Char := Char.ofNat 0x200C

/-- The character that asks for a joined form. -/
def joiner : Char := Char.ofNat 0x200D

/-- A character that a label may stand for. -/
def isAllowed (c : Char) : Bool :=
  c.toNat < 0x80 || c == nonJoiner || c == joiner ||
    (!isFolded c && (!isHidden c || isMark c))

/-- The class of the marks that leave a consonant without a vowel. -/
def viramaClass : Nat := 9

/-- Whether the first character that letters do not join across is of a kind. -/
def meets (kind : Char → Bool) (text : List Char) : Bool :=
  match text.dropWhile fun c => !kind c && isTransparent c with
  | c :: _ => kind c
  | [] => false

/-- Whether every joiner and non-joiner has something to act on, given what stands before the text,
last character first: a consonant without a vowel before it, or, for a non-joiner, letters on both
sides that would join. -/
def joinersAct (before : List Char) : List Char → Bool
  | [] => true
  | c :: rest =>
    let afterVirama := match before with
      | last :: _ => combiningClass last == viramaClass
      | [] => false
    let acts :=
      if c = joiner then afterVirama
      else if c = nonJoiner then afterVirama || (meets joinsAfter before && meets joinsBefore rest)
      else true
    acts && joinersAct (c :: before) rest

/-- The mark of Punycode. -/
def mark : List Char := ['x', 'n', '-', '-']

/-- A text that a label in Punycode may stand for. -/
def isText (text : List Char) : Bool :=
  let startsWell := match text with
    | c :: _ => !isMark c && !mark.isPrefixOf text
    | [] => false
  startsWell && text.length ≤ maxDecoded && text.any (fun c => 0x80 ≤ c.toNat) &&
    text.all isAllowed && joinersAct [] text && composed text == text

/-- The text that a label stands for. -/
def text? (label : List Char) : Option (List Char) :=
  if mark.isPrefixOf label then do
    let encoded := label.drop mark.length
    let text ← if encoded.length ≤ maxEncoded then Punycode.decode? encoded else none
    if isText text then some text else none
  else some label

/-- A text as a label. -/
def inAscii (text : List Char) : List Char :=
  if text.all (·.toNat < 0x80) then text else mark ++ Punycode.encode text

/-- Whether a text holds a letter or digit that goes from right to left. -/
def isRightToLeft (text : List Char) : Bool :=
  text.any fun c => direction c == .right || direction c == .arabic

/-- Whether a text has one direction: it begins with a letter, ends with a letter or digit of that
direction, marks behind it aside, and holds nothing of the other direction nor both kinds of
digits. -/
def hasOneDirection (text : List Char) : Bool :=
  match text.map direction with
  | [] => true
  | first :: rest =>
    match first, (first :: rest).reverse.dropWhile (· == .nonspacing) with
    | .left, last :: _ =>
      (last == .left || last == .european) && rest.all fun d => d != .right && d != .arabic
    | .right, last :: _ =>
      last != .neutral && rest.all (· != .left) &&
        !(rest.contains .european && rest.contains .arabic)
    | _, _ => false

/-- Whether the labels of a domain can stand together. -/
def areNames (labels : List (List Char)) : Bool :=
  match labels.mapM text? with
  | some texts => !texts.any isRightToLeft || texts.all hasOneDirection
  | none => false

end LogProbe.Url.Label
