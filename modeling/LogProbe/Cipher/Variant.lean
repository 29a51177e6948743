/-
**Variants of encrypted fields.** An encrypted field either keeps the header of its key or goes
without.

* `Variant` — the two layouts.
* `Variant.ofText?` — the variant of a name; white space around it and the case of its letters
  do not matter.
-/

import LogProbe.Text.Blank
import LogProbe.Text.Quoted

namespace LogProbe

/-- Whether an encrypted field keeps the header of its key. -/
inductive Variant where
  | tink
  | simple
deriving DecidableEq, Inhabited

namespace Variant

/-- The name of a variant. -/
def name : Variant → String
  | tink => "tink"
  | simple => "simple"

/-- A name in the form in which it is compared: trimmed, ASCII letters in lower case. -/
def folded (text : String) : String :=
  String.ofList ((Text.strip Text.isBlank text.toList).map Char.toLower)

/-- The variant of a name. -/
def ofText? (text : String) : Option Variant :=
  match folded text with
  | "tink" => some tink
  | "simple" => some simple
  | _ => none

/-- What is said of a name that no variant has, in the form in which it was compared. -/
def unknown (folded : String) : String :=
  "Unknown cipher variant " ++ Text.quoted folded ++ ", expected \"tink\" or \"simple\"!"

end Variant

end LogProbe
