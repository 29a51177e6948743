/-
**Where places of an organisation are.** Behind the path of the base URL, less one slash at its end,
stand `/api` and one component each for the organisation and the segments. A component is decoded to
what it stands for and holds no character that would divide it, so that places of different segments
are at different URLs.

* `Url.StandsFor` — what a component and a segment have to do with each other.
* `Session.text_front` — the path in front of `/api`.
* `Session.orgUrl?_injective` — the organisation and the segments come back from the URL.
* `Session.orgUrl?_places_segments` — the law of places.
-/

import LogProbe.Proofs.Config.BaseUrl
import LogProbe.Proofs.Session.Place
import Mathlib.Data.List.Forall2

namespace LogProbe

/-! ### Components -/

namespace Url

/-- A component stands for a segment: it is decoded to the bytes of the segment, no character in it
divides a path or ends it, and every `%` in it is part of an encoded byte. -/
structure StandsFor (component : List Char) (segment : String) : Prop where
  decoded : Percent.decode component = Utf8.bytesOf segment
  undivided : ∀ mark ∈ ['/', '\\', '?', '#'], mark ∉ component
  escaped : Percent.IsEscaped component

variable {scheme : String}

theorem slash_not_mem_componentOf (scheme segment : String) : '/' ∉ componentOf scheme segment := by
  refine Percent.not_mem_encode ?_ (by decide) (by decide) _
  unfold componentSet
  split
  · decide
  · decide

/-- In a special scheme a component stands for its segment. -/
theorem standsFor_componentOf (special : isSpecial scheme = true) (segment : String) :
    StandsFor (componentOf scheme segment) segment where
  decoded := Percent.decode_encode (componentSet_percent scheme) segment.toList
  undivided mark member := by
    obtain ⟨encoded, notPercent, notDigit⟩ : Percent.specialComponent mark = true ∧
        mark ≠ '%' ∧ Percent.digit? mark = none := by
      simp only [List.mem_cons, List.not_mem_nil, or_false] at member
      rcases member with rfl | rfl | rfl | rfl <;> decide
    refine Percent.not_mem_encode ?_ notPercent notDigit _
    rw [componentSet, if_pos special]
    exact encoded
  escaped := Percent.isEscaped_encode (componentSet_percent scheme) segment.toList

theorem componentOf_injective (scheme : String) : Function.Injective (componentOf scheme) := by
  intro first second same
  have read := textOf?_componentOf scheme first
  rw [same, textOf?_componentOf] at read
  exact (Option.some.inj read).symm

/-- A segment of letters that are nowhere encoded is its own component. -/
theorem componentOf_api (scheme : String) : componentOf scheme "api" = ['a', 'p', 'i'] := by
  unfold componentOf componentSet
  split
  · decide
  · decide

/-- Where there is an authority, URLs that differ in their paths alone have the same text only if
their paths have. -/
theorem text_path_of_text {url : Url} (addressed : url.authority.isSome = true) {path other : Path}
    (same : { url with path }.text = { url with path := other }.text) : path.text = other.text := by
  obtain ⟨authority, found⟩ := Option.isSome_iff_exists.mp addressed
  have together : { url with path }.chars = { url with path := other }.chars :=
    String.ofList_injective same
  unfold chars origin at together
  simp only [found] at together
  exact List.append_cancel_left (List.append_cancel_right together)

end Url

namespace Session

open Url

variable {session : Session} {segments : List String}

/-! ### The path in front of a place -/

theorem baseItems_eq {items : List (List Char)} (path : session.baseUrl.path = .components items) :
    session.baseItems = items := by
  unfold baseItems
  rw [path]

/-- Nothing but the end of the path of the base URL gives way. -/
theorem isSlashFree_front (slashFree : IsSlashFree session.baseItems) :
    IsSlashFree session.front := by
  unfold front
  dsimp only
  split
  · exact List.forall_mem_nil _
  · exact isSlashFree_popIfEmpty slashFree

/-- **The path in front of a place** is that of the base URL without one slash at its end. Only the
path of two slashes loses both. -/
theorem text_front (slashFree : IsSlashFree session.baseItems)
    (notTwo : (Path.components session.baseItems).text ≠ ['/', '/']) :
    (Path.components session.front).text =
      Path.withoutFinalSlash (Path.components session.baseItems).text := by
  unfold front
  rcases List.eq_nil_or_concat session.baseItems with none | ⟨items, last, found⟩
  · rw [none]
    rfl
  rw [List.concat_eq_append] at found
  rw [found] at slashFree notTwo ⊢
  have solid : '/' ∉ last := isSlashFree_singleton.mp (isSlashFree_append.mp slashFree).2
  rw [Path.withoutFinalSlash_text solid]
  by_cases alone : items = []
  · -- A path of one component is kept, unless it is a lone slash.
    subst alone
    by_cases blank : last = []
    · subst blank
      rfl
    · simp [Path.popIfEmpty, blank]
  · rw [Path.popIfEmpty_append alone]
    by_cases blank : last = []
    · subst blank
      have more : items ≠ [[]] := by
        rintro rfl
        exact notTwo rfl
      simp [more]
    · have longer : items ++ [last] ≠ [[]] := by
        intro lone
        cases items with
        | nil => exact alone rfl
        | cons first rest => simp at lone
      simp [longer, blank]

/-! ### Places -/

theorem isSpecial_of_isOnline (online : session.IsOnline) :
    isSpecial session.baseUrl.scheme = true := by
  have http := online.isHttp
  refine (isSpecial_of_isHttp ?_).1
  simpa [isHttp] using http

theorem authority_of_isOnline (online : session.IsOnline) :
    session.baseUrl.authority.isSome = true := by
  have host := online.host
  unfold host? at host
  cases found : session.baseUrl.authority with
  | none =>
    rw [found] at host
    cases host
  | some authority => rfl

/-- The components of the organisation and the segments of a place. -/
def placeItems (session : Session) (segments : List String) : List (List Char) :=
  (session.org :: segments).map (componentOf session.baseUrl.scheme)

theorem isSlashFree_placeItems (session : Session) (segments : List String) :
    IsSlashFree (session.placeItems segments) := by
  intro item member
  obtain ⟨segment, -, rfl⟩ := List.mem_map.mp member
  exact slash_not_mem_componentOf _ segment

/-- The components of a place. -/
theorem itemsOf_eq_placeItems (online : session.IsOnline) (org : IsPlainSegment session.org)
    (plain : ∀ segment ∈ segments, IsPlainSegment segment) :
    session.itemsOf segments = session.front ++ ['a', 'p', 'i'] :: session.placeItems segments := by
  rw [itemsOf_eq online org plain, List.map_cons, componentOf_api]
  rfl

theorem isSlashFree_itemsOf (online : session.IsOnline) (slashFree : IsSlashFree session.baseItems)
    (org : IsPlainSegment session.org) (plain : ∀ segment ∈ segments, IsPlainSegment segment) :
    IsSlashFree (session.itemsOf segments) := by
  rw [itemsOf_eq_placeItems online org plain]
  refine isSlashFree_append.mpr ⟨isSlashFree_front slashFree, List.forall_mem_cons.mpr ⟨?_, ?_⟩⟩
  · decide
  · exact isSlashFree_placeItems session segments

/-- **Places come back from their URLs**: on one base URL, no two organisations or lists of segments
have the same one. -/
theorem orgUrl?_injective (online : session.IsOnline) (slashFree : IsSlashFree session.baseItems)
    (org : IsPlainSegment session.org) (plain : ∀ segment ∈ segments, IsPlainSegment segment)
    {otherOrg : String} {others : List String} (plainOrg : IsPlainSegment otherOrg)
    (plainOthers : ∀ segment ∈ others, IsPlainSegment segment)
    (same : ({ session with org := otherOrg }.orgUrl? others).map Url.text =
      (session.orgUrl? segments).map Url.text) : otherOrg = session.org ∧ others = segments := by
  let other : Session := { session with org := otherOrg }
  have otherOnline : other.IsOnline := ⟨online.isHttp, online.host, online.path⟩
  have urls : (other.orgUrl? others).map Url.text = _ := same
  rw [orgUrl?_of_isOnline otherOnline, orgUrl?_of_isOnline online, Option.map_some,
    Option.map_some] at urls
  have paths := text_path_of_text (authority_of_isOnline online) (Option.some.inj urls)
  have items : other.itemsOf others = session.itemsOf segments :=
    Path.text_injective (isSlashFree_itemsOf otherOnline slashFree plainOrg plainOthers)
      (isSlashFree_itemsOf online slashFree org plain) paths
  rw [itemsOf_eq_placeItems otherOnline plainOrg plainOthers,
    itemsOf_eq_placeItems online org plain] at items
  have places : other.placeItems others = session.placeItems segments :=
    (List.cons.inj (List.append_cancel_left items)).2
  exact List.cons.inj ((componentOf_injective session.baseUrl.scheme).list_map places)

/-- **The law of places.** On an accepted base URL whose path is not just two slashes, a place with
plain segments has a URL. Its path is that of the base URL without one slash at its end, then
`/api`, and then a slash and a component for the organisation and for each segment, in their order;
everything else is as in the base URL. Other segments or another organisation give another URL. -/
theorem orgUrl?_places_segments {text : String}
    (accepted : Config.baseUrlOf text = .ok session.baseUrl)
    (notTwo : session.baseUrl.path.text ≠ ['/', '/']) (org : IsPlainSegment session.org)
    (plain : ∀ segment ∈ segments, IsPlainSegment segment) :
    ∃ url components, session.orgUrl? segments = some url ∧
      url.path.text = Path.withoutFinalSlash session.baseUrl.path.text ++
        ['/', 'a', 'p', 'i'] ++ components.flatMap (fun component => '/' :: component) ∧
      List.Forall₂ StandsFor components (session.org :: segments) ∧
      url.scheme = session.baseUrl.scheme ∧ url.authority = session.baseUrl.authority ∧
      url.query = session.baseUrl.query ∧ url.fragment = session.baseUrl.fragment ∧
      ∀ (otherOrg : String) (others : List String), IsPlainSegment otherOrg →
        (∀ segment ∈ others, IsPlainSegment segment) →
        ({ session with org := otherOrg }.orgUrl? others).map Url.text = some url.text →
        otherOrg = session.org ∧ others = segments := by
  have online := Config.isOnline_of_baseUrlOf accepted
  obtain ⟨items, path, slashFree⟩ := Config.isSlashFree_of_baseUrlOf accepted
  rw [← baseItems_eq path] at slashFree path
  rw [path] at notTwo ⊢
  refine ⟨_, session.placeItems segments, orgUrl?_of_isOnline online segments, ?_, ?_, rfl, rfl, rfl,
    rfl, ?_⟩
  · show (Path.components (session.itemsOf segments)).text = _
    rw [itemsOf_eq_placeItems online org plain, Path.text_append, Path.text_cons,
      text_front slashFree notTwo, List.append_assoc]
    rfl
  · refine List.forall₂_map_left_iff.mpr (List.forall₂_same.mpr fun segment _ => ?_)
    exact standsFor_componentOf (isSpecial_of_isOnline online) segment
  · intro otherOrg others plainOrg plainOthers same
    refine orgUrl?_injective online slashFree org plain plainOrg plainOthers ?_
    rw [same, orgUrl?_of_isOnline online]
    rfl

/-- A session on a base URL with a path that ends with a slash, a query and a fragment. -/
def queriedSession : Session where
  baseUrl := {
    scheme := "https"
    authority := some ⟨['u'], some ['p'], some (.domain "zo.test"), some 8443⟩
    path := .components [['o'], []]
    query := some ['q']
    fragment := some ['f', '/'] }
  org := "my org"
  credentials := none

/-- A place with marks and an empty segment. -/
theorem orgUrl?_places_segments_queried :
    ∃ url components, queriedSession.orgUrl? ["roles", "50%/\\?#", ""] = some url ∧
      url.path.text = ['/', 'o', '/', 'a', 'p', 'i'] ++
        components.flatMap (fun component => '/' :: component) ∧
      List.Forall₂ StandsFor components ["my org", "roles", "50%/\\?#", ""] ∧
      url.query = some ['q'] := by
  have accepted : Config.baseUrlOf " https://u:p@zo.test:8443/o/?q#f" =
      .ok queriedSession.baseUrl := by
    decide +kernel
  have plain : ∀ segment ∈ ["roles", "50%/\\?#", ""], IsPlainSegment segment := by
    intro segment member
    simp only [List.mem_cons, List.not_mem_nil, or_false] at member
    rcases member with rfl | rfl | rfl
    · exact isPlainSegment_of_all (by decide) (by decide) (by decide)
    · exact isPlainSegment_of_all (by decide) (by decide) (by decide)
    · exact isPlainSegment_of_all (by decide) (by decide) (by decide)
  obtain ⟨url, components, found, path, stands, -, -, query, -⟩ :=
    orgUrl?_places_segments accepted (by decide)
      (isPlainSegment_of_all (by decide) (by decide) (by decide)) plain
  exact ⟨url, components, found, path, stands, query⟩

end Session

end LogProbe
