/-
**Calls of a session.** A call builds a request and, if that works out, sends it exactly once.

* `Session.IsOnline` — what a base URL must have so that requests go out: a scheme of HTTP, a host
  and a path to which components can be added.
* `Session.requestFor?` — the request of a call.
* `Session.requestFor?_of_isOnline` — what it is made of.
* `Session.exists_requestFor?`, `Session.isOnline_of_requestFor?` — a session that is online has one
  whatever is asked for, and no other session has any.
* `Session.run_call` — the course of a call: one request, its delivery taken in by
  `Session.received`, and no more.
-/

import LogProbe.Proofs.Probe.Course
import LogProbe.Session

namespace LogProbe.Session

/-- Requests of the session go out. -/
structure IsOnline (session : Session) : Prop where
  isHttp : session.baseUrl.isHttp = true
  host : session.baseUrl.host?.isSome = true
  path : ∃ items, session.baseUrl.path = .components items

/-- The request of a call, if there is one that goes out. -/
def requestFor? (session : Session) (method : Http.Method) (segments : List String)
    (query : List (String × String)) (value : Option Json.Value) : Option Http.Request := do
  let url ← session.orgUrl? segments
  let request ← session.request? method (url.withQuery query) (value.map Http.Content.json)
  if request.url.isHttp then some request else none

/-- The components of the base URL. -/
def baseItems (session : Session) : List (List Char) :=
  match session.baseUrl.path with
  | .components items => items
  | .plain _ => []

/-- The components of a place in the organisation. -/
def itemsOf (session : Session) (segments : List String) : List (List Char) :=
  ("api" :: session.org :: segments).foldl (Url.Path.push session.baseUrl.scheme)
    (Url.Path.popIfEmpty session.baseItems)

/-- How a call ends, by what is delivered for its request. -/
def received (request : Http.Request) : Delivery → Ending Http.Response
  | .replied status body => .value ⟨request.method, request.url, status, body⟩
  | .cutShort _ causes => .failed (.transport (.cutShort request.method request.url causes))
  | .dropped causes => .failed (.transport (.unanswered request.method request.url causes))

/-- What a call logs: one line for a response that came back whole. -/
def receivedLog (request : Http.Request) : Delivery → List LogLine
  | .replied status body =>
    [⟨.debug, s!"{request.method.name} {request.url.text} -> {status.shown} ({body.length} bytes)"⟩]
  | .cutShort _ _ => []
  | .dropped _ => []

/-! ### Which requests go out -/

/-- Pairs are added to the query and nothing else. -/
theorem exists_withQuery_eq (url : Url) (pairs : List (String × String)) :
    ∃ query, url.withQuery pairs = { url with query } := by
  unfold Url.withQuery
  split
  · exact ⟨url.query, rfl⟩
  · split
    · exact ⟨_, rfl⟩
    · exact ⟨_, rfl⟩
    · exact ⟨_, rfl⟩

/-- Who is signed in by a URL has no part in its scheme. -/
theorem isHttp_signedOut (url : Url) :
    (if url.signIn?.isSome then url.withoutUserinfo else url).isHttp = url.isHttp := by
  split
  · rfl
  · rfl

variable {session : Session} {method : Http.Method} {segments : List String}
  {query : List (String × String)} {value : Option Json.Value} {request : Http.Request}

/-- A base URL in a scheme of HTTP whose path has components takes further ones. -/
theorem orgUrl?_of_isOnline (online : session.IsOnline) (segments : List String) :
    session.orgUrl? segments =
      some { session.baseUrl with path := .components (session.itemsOf segments) } := by
  obtain ⟨items, path⟩ := online.path
  have base : session.baseUrl.isBase = true := by
    unfold Url.isBase
    split
    · rfl
    · rfl
    · rename_i plain
      rw [path] at plain
      cases plain
  have own : session.baseItems = items := by
    unfold baseItems
    rw [path]
  unfold orgUrl? Url.withSegments? itemsOf
  rw [if_pos base, path, own]

/-- **The request of a call, part by part.** The pairs of a call go into the query, and who is
signed in by the URL goes from there into the authorization. -/
theorem requestFor?_of_isOnline (online : session.IsOnline) {place : Url}
    (found : session.orgUrl? segments = some place) (method : Http.Method)
    (query : List (String × String)) (value : Option Json.Value) :
    session.requestFor? method segments query value = some {
      method
      url := { (if place.signIn?.isSome then place.withoutUserinfo else place) with
        query := (place.withQuery query).query }
      authorization := session.authorization place
      content := value.map Http.Content.json } := by
  rw [orgUrl?_of_isOnline online segments] at found
  cases found
  obtain ⟨pairs, queried⟩ := exists_withQuery_eq
    { session.baseUrl with path := .components (session.itemsOf segments) } query
  have host := online.host
  have http := online.isHttp
  unfold requestFor? request?
  rw [orgUrl?_of_isOnline online segments]
  simp only [Option.bind_eq_bind, Option.bind_some, queried]
  unfold Url.host? at host ⊢
  rw [if_pos host]
  simp only [Option.bind_some, isHttp_signedOut]
  rw [if_pos (by exact http)]
  refine congrArg some ?_
  -- Neither the user of a URL nor what is left without it depends on the query.
  have same : Url.signIn? { session.baseUrl with
      path := .components (session.itemsOf segments), query := pairs } =
      Url.signIn? { session.baseUrl with path := .components (session.itemsOf segments) } := rfl
  unfold authorization
  rw [same]
  split
  · rfl
  · rfl

/-- **A session that is online has a request for every call.** -/
theorem exists_requestFor? (online : session.IsOnline) (method : Http.Method)
    (segments : List String) (query : List (String × String)) (value : Option Json.Value) :
    ∃ request, session.requestFor? method segments query value = some request ∧
      request.method = method ∧ request.content = value.map Http.Content.json ∧
      request.url.path = .components (session.itemsOf segments) := by
  refine ⟨_, requestFor?_of_isOnline online (orgUrl?_of_isOnline online segments) _ _ _, rfl, rfl,
    ?_⟩
  dsimp only
  split
  · rfl
  · rfl

/-- A place in the organisation is on the base URL, whose path has components. -/
theorem orgUrl?_eq_some {url : Url} (found : session.orgUrl? segments = some url) :
    (∃ items, session.baseUrl.path = .components items) ∧
      ∃ path, url = { session.baseUrl with path } := by
  unfold orgUrl? Url.withSegments? at found
  split at found
  · split at found
    · rename_i items path
      cases found
      exact ⟨⟨items, path⟩, _, rfl⟩
    · cases found
  · cases found

/-- **Only a session that is online has a request for a call.** -/
theorem isOnline_of_requestFor?
    (sends : session.requestFor? method segments query value = some request) :
    session.IsOnline := by
  unfold requestFor? at sends
  obtain ⟨url, found, sends⟩ := Option.bind_eq_some_iff.mp sends
  obtain ⟨other, built, sends⟩ := Option.bind_eq_some_iff.mp sends
  obtain ⟨path, newPath, rfl⟩ := orgUrl?_eq_some found
  obtain ⟨newQuery, queried⟩ := exists_withQuery_eq { session.baseUrl with path := newPath } query
  rw [queried] at built
  unfold request? at built
  split at built
  · rename_i host
    cases built
    simp only [isHttp_signedOut] at sends
    split at sends
    · rename_i http
      exact ⟨http, host, path⟩
    · cases sends
  · cases built

/-- **What the request of a call is made of.** -/
theorem parts_of_requestFor?
    (sends : session.requestFor? method segments query value = some request) :
    request.method = method ∧ request.content = value.map Http.Content.json ∧
      request.url.path = .components (session.itemsOf segments) := by
  obtain ⟨other, found, parts⟩ :=
    exists_requestFor? (isOnline_of_requestFor? sends) method segments query value
  rw [sends] at found
  cases found
  exact parts

/-- The request of a call without a query goes to the place itself, without the user in its URL. -/
theorem exists_orgUrl?_of_requestFor?
    (sends : session.requestFor? method segments [] value = some request) :
    ∃ url, session.orgUrl? segments = some url ∧
      request.url = if url.signIn?.isSome then url.withoutUserinfo else url := by
  unfold requestFor? at sends
  obtain ⟨url, found, sends⟩ := Option.bind_eq_some_iff.mp sends
  obtain ⟨other, built, sends⟩ := Option.bind_eq_some_iff.mp sends
  obtain ⟨-, same⟩ := Option.ite_none_right_eq_some.mp sends
  cases same
  refine ⟨url, found, ?_⟩
  unfold request? at built
  obtain ⟨-, same⟩ := Option.ite_none_right_eq_some.mp built
  cases same
  rfl

/-! ### The course of a call -/

/-- A call with a request sends it and takes in its delivery. -/
theorem call_of_requestFor?
    (sends : session.requestFor? method segments query value = some request) :
    session.call method segments query value = .sent request (receive request) := by
  unfold requestFor? at sends
  unfold call
  split
  · rename_i missing
    rw [missing] at sends
    cases sends
  · rename_i url found
    rw [found] at sends
    simp only [Option.bind_eq_bind, Option.bind_some] at sends
    cases built : session.request? method (url.withQuery query) (value.map Http.Content.json) with
    | none =>
      rw [built] at sends
      cases sends
    | some other =>
      rw [built] at sends
      simp only [Option.bind_some] at sends
      split at sends
      · rename_i http
        cases sends
        simp only [execute, http, if_true]
      · cases sends

theorem run_receive {σ : Type} (service : Service σ) (state : σ) (delivery : Delivery) :
    (receive request delivery).run service state =
      ⟨received request delivery, [], receivedLog request delivery, state⟩ := by
  cases delivery <;> rfl

/-- **The course of a call**: its request is sent once, and what is delivered settles the rest. -/
theorem run_call {σ : Type}
    (sends : session.requestFor? method segments query value = some request)
    (service : Service σ) (state : σ) :
    (session.call method segments query value).run service state =
      ⟨received request (service state request).1, [(request, (service state request).1)],
        receivedLog request (service state request).1, (service state request).2⟩ := by
  rw [call_of_requestFor? sends]
  simp only [Probe.run, run_receive]

end LogProbe.Session
