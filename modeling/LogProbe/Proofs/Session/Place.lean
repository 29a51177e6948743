/-
**Places of requests.** Where a request goes can be read from its path: behind the components of the
base URL stand `api`, the organisation and the segments, each of them encoded.

* `Session.itemsOf_eq` — the components of a place with plain segments.
* `Session.placeOf?` — the segments that a request addresses in the organisation.
* `Session.placeOf?_of_requestFor?` — they are those that the request was made for.
-/

import LogProbe.Proofs.Session.Call
import LogProbe.Proofs.Url.Segment

namespace LogProbe.Session

variable {session : Session} {segments : List String}

/-- The components of the base URL behind which a place begins. -/
def front (session : Session) : List (List Char) :=
  let items := Url.Path.popIfEmpty session.baseItems
  if items = [[]] then [] else items

theorem scheme_ne_file (online : session.IsOnline) : session.baseUrl.scheme ≠ "file" := by
  intro file
  have http := online.isHttp
  unfold Url.isHttp at http
  rw [file] at http
  cases http

theorem isPlainSegment_api : Url.IsPlainSegment "api" :=
  Url.isPlainSegment_of_all (by decide) (by decide) (by decide)

/-- **The components of a place.** -/
theorem itemsOf_eq (online : session.IsOnline) (org : Url.IsPlainSegment session.org)
    (plain : ∀ segment ∈ segments, Url.IsPlainSegment segment) :
    session.itemsOf segments = session.front ++
      ("api" :: session.org :: segments).map (Url.componentOf session.baseUrl.scheme) := by
  have notFile := scheme_ne_file online
  have first : Url.Path.push session.baseUrl.scheme (Url.Path.popIfEmpty session.baseItems) "api" =
      session.front ++ [Url.componentOf session.baseUrl.scheme "api"] :=
    Url.push_of_plain notFile isPlainSegment_api _
  have letters : Url.componentOf session.baseUrl.scheme "api" ≠ [] := by
    intro nothing
    have read := Url.textOf?_componentOf session.baseUrl.scheme "api"
    rw [nothing] at read
    exact absurd (Option.some.inj read) (by decide)
  unfold itemsOf
  rw [List.foldl_cons, first, Url.foldl_push_of_plain notFile]
  · rw [List.append_assoc, List.singleton_append]
    rfl
  · intro segment member
    rcases List.mem_cons.mp member with rfl | member
    · exact org
    · exact plain segment member
  · simp
  · intro lone
    have member : Url.componentOf session.baseUrl.scheme "api" ∈ [[]] :=
      lone ▸ List.mem_append_right _ List.mem_cons_self
    exact letters (List.mem_singleton.mp member)

/-- The segments that a request addresses in the organisation of a session. -/
def placeOf? (session : Session) (request : Http.Request) : Option (List String) :=
  match request.url.path with
  | .plain _ => none
  | .components items =>
    if session.front.isPrefixOf items then
      match (items.drop session.front.length).mapM Percent.textOf? with
      | some (api :: org :: segments) =>
        if api = "api" ∧ org = session.org then some segments else none
      | _ => none
    else none

theorem mapM_textOf?_componentOf (scheme : String) (segments : List String) :
    (segments.map (Url.componentOf scheme)).mapM Percent.textOf? = some segments := by
  induction segments with
  | nil => rfl
  | cons segment rest ih =>
    rw [List.map_cons, List.mapM_cons, Url.textOf?_componentOf, ih]
    rfl

/-- **A request addresses the place that it was made for.** -/
theorem placeOf?_of_requestFor? {method : Http.Method} {query : List (String × String)}
    {value : Option Json.Value} {request : Http.Request}
    (sends : session.requestFor? method segments query value = some request)
    (org : Url.IsPlainSegment session.org)
    (plain : ∀ segment ∈ segments, Url.IsPlainSegment segment) :
    session.placeOf? request = some segments := by
  have path := (parts_of_requestFor? sends).2.2
  rw [itemsOf_eq (isOnline_of_requestFor? sends) org plain] at path
  unfold placeOf?
  rw [path]
  simp only [List.isPrefixOf_iff_prefix, List.prefix_append, if_true, List.drop_left,
    mapM_textOf?_componentOf, and_self]

end LogProbe.Session
