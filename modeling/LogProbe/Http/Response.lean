/-
**HTTP responses.** A response is what came back for a request; whether it is a good one is for the
caller to judge.

* `Http.Response.text`, `Http.Response.json?` — what the body holds.
* `Http.Response.isAbsent` — whether a read found nothing: it failed, or its body is blank or an
  empty value.
* `Http.Response.expectStatus`, `Http.Response.expectOk`, `Http.Response.expectAbsent` — the
  response, if it is as expected, and otherwise a `StatusMismatch` that says what it was.
-/

import LogProbe.Http.Request
import LogProbe.Http.Status

namespace LogProbe.Http

/-- The status and body that came back, and for which request. -/
structure Response where
  method : Method
  url : Url
  status : Status
  body : Bytes
deriving DecidableEq

/-- What a caller expects of a response. -/
inductive Expected where
  | status (code : Status)
  | absent
deriving DecidableEq

/-- An expectation in words. -/
def Expected.shown : Expected → String
  | status code => code.shown
  | absent => "404 or an empty body"

/-- A response that was not as expected. -/
structure StatusMismatch where
  method : Method
  url : Url
  expected : Expected
  actual : Status
  body : String
deriving DecidableEq

/-- A mismatch in words. -/
def StatusMismatch.message (mismatch : StatusMismatch) : String :=
  s!"{mismatch.method.name} {mismatch.url.text}: expected {mismatch.expected.shown}, " ++
    s!"but got {mismatch.actual.shown} {mismatch.body}"

namespace Response

/-- The text of the body, as far as it is one. -/
def text (response : Response) : String := String.ofList (Utf8.decodeLossy response.body)

/-- The value in the body. -/
def json? (response : Response) : Option Json.Value := Json.Value.ofBytes? response.body

/-- The bytes that leave a body blank: space, tab, line feed, form feed and carriage return. -/
def isBlank (byte : UInt8) : Bool := Json.isBlank byte || byte == 0x0C

/-- Whether a read found nothing. -/
def isAbsent (response : Response) : Bool :=
  if response.status.isSuccess then
    match response.json? with
    | some .null => true
    | some (.array items) => items.isEmpty
    | some (.object fields) => fields.isEmpty
    | some _ => false
    | none => response.body.all isBlank
  else true

/-- How a response differs from what was expected. -/
def mismatch (response : Response) (expected : Expected) : StatusMismatch :=
  ⟨response.method, response.url, expected, response.status, response.text⟩

/-- The response, if it has a given status. -/
def expectStatus (response : Response) (status : Status) : Except StatusMismatch Response :=
  if response.status = status then .ok response else .error (response.mismatch (.status status))

/-- The response, if it has the status 200. -/
def expectOk (response : Response) : Except StatusMismatch Response :=
  response.expectStatus .ok

/-- The response, if it found nothing. -/
def expectAbsent (response : Response) : Except StatusMismatch Response :=
  if response.isAbsent then .ok response else .error (response.mismatch .absent)

end Response

end LogProbe.Http
