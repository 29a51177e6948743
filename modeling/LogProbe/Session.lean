/-
**Sessions.** A session sends requests to one organisation of one service.

* `Session.start` — the session of a configuration.
* `Session.orgUrl?` — the URL of a place in the organisation.
* `Session.request?` — a request. A user in the URL leaves it for an authorization header of its
  own, in front of that of the configured credentials. A URL needs a host.
* `Session.execute` — sends a request and takes in the whole response, whatever its status.
* `Session.get`, `Session.delete`, `Session.post`, `Session.put` — requests to places in the
  organisation.
-/

import LogProbe.Config
import LogProbe.Probe.Basic

namespace LogProbe

/-- The value of the header that signs in with a user name and a password. -/
def basicAuthorization (user password : String) : String :=
  "Basic " ++ Base64.encode (Utf8.bytesOf user ++ 0x3A :: Utf8.bytesOf password)

/-- A service, an organisation of it and who signs in. -/
structure Session where
  baseUrl : Url
  org : String
  credentials : Option Credentials

namespace Session

/-- The session of a configuration. -/
def ofConfig (config : Config) : Session := ⟨config.baseUrl, config.org, config.credentials⟩

/-- What is logged when a session starts. -/
def opening (session : Session) : String :=
  let kind := if session.credentials.isSome then "basic auth" else "anonymous"
  s!"Opened session against {session.baseUrl.text} for org {session.org} ({kind})"

/-- The session of a configuration, which is logged. -/
def start (config : Config) : Probe Session := do
  let session := ofConfig config
  Probe.log .info session.opening
  pure session

/-- The URL of a place in the organisation: the base URL, `api`, the organisation and the segments,
each of them encoded. -/
def orgUrl? (session : Session) (segments : List String) : Option Url :=
  session.baseUrl.withSegments? ("api" :: session.org :: segments)

/-- The authorization headers: of the user in a URL, then of the credentials. -/
def authorization (session : Session) (url : Url) : List String :=
  (url.signIn?.map fun (user, password) => basicAuthorization user (password.getD "")).toList ++
    (session.credentials.map fun credentials =>
      basicAuthorization credentials.user credentials.password).toList

/-- A request, if its URL has a host. -/
def request? (session : Session) (method : Http.Method) (url : Url)
    (content : Option Http.Content) : Option Http.Request :=
  if url.host?.isSome then
    some {
      method, content
      url := if url.signIn?.isSome then url.withoutUserinfo else url
      authorization := session.authorization url }
  else none

/-- The response to a request as it was delivered. -/
def receive (request : Http.Request) : Delivery → Probe Http.Response
  | .replied status body => do
    Probe.log .debug
      s!"{request.method.name} {request.url.text} -> {status.shown} ({body.length} bytes)"
    pure ⟨request.method, request.url, status, body⟩
  | .cutShort _ causes => .failed (.transport (.cutShort request.method request.url causes))
  | .dropped causes => .failed (.transport (.unanswered request.method request.url causes))

/-- Sends a request to a URL, if there is one, and takes in the response. Only the schemes of HTTP
are spoken. -/
def execute (url : Url) : Option Http.Request → Probe Http.Response
  | none => .failed (.transport (.unbuildable url))
  | some request =>
    if request.url.isHttp then .sent request (receive request)
    else
      .failed (.transport
        (.unanswered request.method request.url (TransportError.refusal request.url)))

/-- Sends a request to a place in the organisation. -/
def call (session : Session) (method : Http.Method) (segments : List String)
    (query : List (String × String)) (value : Option Json.Value) : Probe Http.Response :=
  match session.orgUrl? segments with
  | none => .failed (.notBase session.baseUrl)
  | some url =>
    execute url (session.request? method (url.withQuery query) (value.map Http.Content.json))

/-- Reads a place in the organisation. -/
def get (session : Session) (segments : List String) : Probe Http.Response :=
  session.call .get segments [] none

/-- Removes a place in the organisation. -/
def delete (session : Session) (segments : List String) : Probe Http.Response :=
  session.call .delete segments [] none

/-- Adds a value to a place in the organisation. -/
def post (session : Session) (segments : List String) (value : Json.Value) : Probe Http.Response :=
  session.call .post segments [] (some value)

/-- Changes a place in the organisation to a value. -/
def put (session : Session) (segments : List String) (query : List (String × String))
    (value : Json.Value) : Probe Http.Response :=
  session.call .put segments query (some value)

end Session

end LogProbe
