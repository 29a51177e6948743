/-
**The status envelope of the service.** Plain replies and errors carry a code, and perhaps a message
and an error text.

* `ServiceStatus.toValue`, `ServiceStatus.ofDocument?` — the envelope in JSON. Texts that are
  missing are left out.
-/

import LogProbe.Http.Response
import LogProbe.Json.Record

namespace LogProbe

open Json

/-- A natural number below `2 ^ 16` that a document writes. -/
def statusCode? (document : Document) : Option UInt16 := do
  let value ← document.natural? UInt16.size
  some (UInt16.ofNat value)

/-- A field with a text, or none. -/
def optionalField (name : String) (text : Option String) : List (String × Value) :=
  match text with
  | none => []
  | some text => [(name, .string text)]

/-- The envelope of plain replies and errors. -/
structure ServiceStatus where
  code : UInt16
  message : Option String
  error : Option String
deriving DecidableEq

namespace ServiceStatus

/-- The envelope of a status and a message. -/
def of (status : Http.Status) (message : String) : ServiceStatus :=
  ⟨status.code, some message, none⟩

/-- An envelope as a value. -/
def toValue (status : ServiceStatus) : Value :=
  .object <| ("code", .natural status.code.toNat) ::
    (optionalField "message" status.message ++ optionalField "error" status.error)

/-- An envelope from a document. -/
def ofDocument? (document : Document) : Option ServiceStatus := do
  match ← document.record? ["code", "message", "error"] with
  | [code, message, error] =>
    let code ← Document.required? statusCode? code
    let message ← Document.optional? Document.text? message
    let error ← Document.optional? Document.text? error
    some ⟨code, message, error⟩
  | _ => none

/-- The envelope in the body of a response. -/
def ofResponse? (response : Http.Response) : Option ServiceStatus := do
  let document ← Document.read? response.body
  ofDocument? document

end ServiceStatus

end LogProbe
