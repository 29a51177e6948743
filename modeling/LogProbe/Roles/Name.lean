/-
**Names of roles.**

* `RoleName` — any text can name a role.
* `RoleName.Source` — hands out names that do not repeat: each has the number of the process, a
  counter and a token.
* `RoleName.parts?` — reads such a name back.
-/

import LogProbe.Bytes

namespace LogProbe

/-- The name of a role. -/
structure RoleName where
  text : String
deriving DecidableEq

namespace RoleName

/-- The name with the number of a process, a counter and a token. -/
def ofParts (process : Nat) (counter : UInt64) (token : UInt32) : RoleName :=
  ⟨s!"role_{process}_{counter}_" ++ (Bytes.bigEndian32 token).toHex⟩

/-- A source of names for one process. -/
structure Source where
  process : Nat
  counter : UInt64 := 1

/-- The next name of a source, and the source after it. -/
def Source.take (source : Source) (token : UInt32) : RoleName × Source :=
  (ofParts source.process source.counter token, { source with counter := source.counter + 1 })

/-- One name for each token. -/
def Source.takeAll : Source → List UInt32 → List RoleName
  | _, [] => []
  | source, token :: rest =>
    let (name, source) := source.take token
    name :: source.takeAll rest

/-- A number in decimal. -/
def number? (digits : List Char) : Option Nat :=
  if digits ≠ [] ∧ digits.all Char.isDigit then
    some (digits.foldl (fun value c => 10 * value + (c.toNat - 48)) 0)
  else none

/-- A lower-case hexadecimal digit. -/
def isHexDigit (c : Char) : Bool := c.isDigit || ('a' ≤ c && c ≤ 'f')

/-- The process, the counter and the token of a name that has them. -/
def parts? (name : RoleName) : Option (Nat × Nat × List Char) :=
  match name.text.toList.splitOn '_' with
  | [['r', 'o', 'l', 'e'], process, counter, token] => do
    let process ← number? process
    let counter ← number? counter
    if token.length = 8 ∧ token.all isHexDigit then some (process, counter, token) else none
  | _ => none

end RoleName

end LogProbe
