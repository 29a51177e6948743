/-
**Why a probe fails.**

* `TransportError` — a request that cannot be sent, or a response that does not come back whole.
* `Failure` — everything that ends a probe without a value.
* `Failure.message?`, `Failure.causes` — a failure in words, outermost first.
-/

import LogProbe.Http.Response
import LogProbe.Ingest.Fixture

namespace LogProbe

/-- What can go wrong between a request and its response. The causes are what the client library
says of it, outermost first. -/
inductive TransportError where
  | unbuildable (url : Url)
  | unanswered (method : Http.Method) (url : Url) (causes : List String)
  | cutShort (method : Http.Method) (url : Url) (causes : List String)
deriving DecidableEq

namespace TransportError

/-- A transport error in words. -/
def message : TransportError → String
  | unbuildable _ => "Failed to build request!"
  | unanswered method url _ => s!"{method.name} {url.text} failed"
  | cutShort method url _ => s!"{method.name} {url.text}: failed to read response body"

/-- What the client library says of a URL that it does not speak to. -/
def refusal (url : Url) : List String :=
  [s!"builder error for url ({url.text})", "URL scheme is not allowed"]

/-- What stands behind a transport error. -/
def causes : TransportError → List String
  | unbuildable url => refusal url
  | unanswered _ _ causes | cutShort _ _ causes => causes

end TransportError

/-- Why a probe fails. -/
inductive Failure where
  | cipher (error : Cipher.Error)
  | batch (error : Batch.Error)
  | fixture (error : Fixture.Error)
  | transport (error : TransportError)
  | mismatch (found : Http.StatusMismatch)
  | notBase (url : Url)
  | notJson
  | unnamedRole (name : String) (body : String)
  | custom (text : String)

namespace Failure

/-- A failure in words; a library's error alone has none. -/
def message? : Failure → Option String
  | cipher error => error.message?
  | batch error => error.message?
  | fixture error => some error.message
  | transport error => some error.message
  | mismatch found => some found.message
  | notBase url => some s!"{url.text} cannot be a base URL!"
  | notJson => none
  | unnamedRole name body =>
    some s!"GET role {name} did not return \"name\":\"{name}\": {body}"
  | custom text => some text

/-- What stands behind the message of a failure. -/
def causes : Failure → List String
  | fixture (.unparsable _ cause) => cause.message?.toList
  | transport error => error.causes
  | _ => []

/-- A failure with its causes in one line. -/
def line (failure : Failure) : String :=
  ": ".intercalate (failure.message?.toList ++ failure.causes)

end Failure

end LogProbe
