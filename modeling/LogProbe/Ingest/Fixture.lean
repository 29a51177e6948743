/-
**Fixtures.** A fixture is a file that holds a batch.

* `Fixture` — where the file is: the bundled one, or one at a path.
* `Fixture.load` — the batch in the content of the file.
-/

import LogProbe.Ingest.Batch

namespace LogProbe

/-- Where a fixture is. -/
inductive Fixture where
  | bundled
  | file (path : String)
deriving DecidableEq

namespace Fixture

/-- The path of a fixture. -/
def path : Fixture → String
  | bundled => "test-data/logs_data.json"
  | file path => path

/-- Why a fixture gives no batch. -/
inductive Error where
  | unreadable (path : String)
  | unparsable (path : String) (cause : Batch.Error)

/-- An error in words. -/
def Error.message : Error → String
  | unreadable path => s!"Failed to read fixture {path}!"
  | unparsable path _ => s!"Failed to parse fixture {path}!"

/-- The batch in a file with the given content; there is none if the file is missing. -/
def load (fixture : Fixture) (content : Option Bytes) : Except Error Batch :=
  match content.bind Utf8.decode? with
  | none => .error (.unreadable fixture.path)
  | some text =>
    match Batch.ofText (String.ofList text) with
    | .error cause => .error (.unparsable fixture.path cause)
    | .ok batch => .ok batch

end Fixture

end LogProbe
