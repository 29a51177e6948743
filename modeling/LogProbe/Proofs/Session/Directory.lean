/-
**Base URLs as directories.** The text of a place begins with that of the base URL if nothing
follows the path of the base URL. The slash that closes the text of a base URL closes its path only
where neither a query nor a fragment takes it, and a path of two slashes loses both.

* `Session.IsDirectory` — base URLs that every place is under.
* `Session.text_place` — the text of a place on such a base URL.
* `Session.isDirectory_iff` — which accepted base URLs these are.
* `Session.not_isDirectory_queried` — a base URL with a query, and one whose path is two slashes.
-/

import LogProbe.Proofs.Config.Stability
import LogProbe.Proofs.Session.Location

namespace LogProbe

namespace Url

/-- The text of a path is its components with slashes between them, behind one. -/
theorem Path.text_eq_intercalate {items : List (List Char)} (some : items ≠ []) :
    (Path.components items).text = '/' :: ['/'].intercalate items := by
  induction items with
  | nil => exact absurd rfl some
  | cons item rest ih =>
    cases rest with
    | nil => rw [Path.text_cons, Path.text_nil, List.append_nil, List.intercalate_singleton]
    | cons next rest =>
      rw [Path.text_cons, ih (List.cons_ne_nil _ _), List.intercalate_cons_cons, List.append_assoc]
      rfl

/-- The text of a URL that nothing follows the path of: what stands in front of the path, and the
path. -/
theorem exists_chars_eq_append (url : Url) (addressed : url.authority.isSome = true)
    (noQuery : url.query = none) (noFragment : url.fragment = none) :
    ∃ front, ∀ path, { url with path }.chars = front ++ path.text := by
  obtain ⟨authority, found⟩ := Option.isSome_iff_exists.mp addressed
  refine ⟨url.scheme.toList ++ ':' :: '/' :: '/' :: authority.text, fun path => ?_⟩
  unfold chars origin suffix
  simp only [found, noQuery, noFragment, List.append_nil]

end Url

namespace Session

open Url

/-- A base URL that places are under: its path ends with a slash, nothing follows the path, and the
text of a place is that of the base URL, `api/`, and the encoded organisation and segments with
slashes between them. -/
structure IsDirectory (base : Url) : Prop where
  path : EndsWithSlash base.path.text
  query : base.query = none
  fragment : base.fragment = none
  places : ∀ (session : Session) (segments : List String), session.baseUrl = base →
    IsPlainSegment session.org → (∀ segment ∈ segments, IsPlainSegment segment) →
    ∃ place, session.orgUrl? segments = some place ∧
      place.text = base.text ++ "api/" ++ String.ofList
        (['/'].intercalate ((session.org :: segments).map (componentOf base.scheme)))

variable {session : Session} {segments : List String}

/-- What stands in a place behind the path in front of it. -/
theorem text_api_placeItems (session : Session) (segments : List String) :
    (Path.components (['a', 'p', 'i'] :: session.placeItems segments)).text =
      '/' :: ("api/".toList ++ ['/'].intercalate (session.placeItems segments)) := by
  have some : session.placeItems segments ≠ [] := List.cons_ne_nil _ _
  rw [Path.text_cons, Path.text_eq_intercalate some]
  rfl

/-- **The text of a place** on a base URL whose path ends with a slash that nothing follows. -/
theorem text_place (online : session.IsOnline) (slashFree : IsSlashFree session.baseItems)
    (notTwo : session.baseUrl.path.text ≠ ['/', '/'])
    (closed : EndsWithSlash session.baseUrl.path.text) (noQuery : session.baseUrl.query = none)
    (noFragment : session.baseUrl.fragment = none) (org : IsPlainSegment session.org)
    (plain : ∀ segment ∈ segments, IsPlainSegment segment) :
    { session.baseUrl with path := .components (session.itemsOf segments) }.text =
      session.baseUrl.text ++ "api/" ++
        String.ofList (['/'].intercalate (session.placeItems segments)) := by
  obtain ⟨items, path⟩ := online.path
  have own := baseItems_eq path
  have front : session.baseUrl.path.text = (Path.components session.front).text ++ ['/'] := by
    rw [path, ← own] at closed notTwo ⊢
    rw [text_front slashFree notTwo, Path.withoutFinalSlash, if_pos (endsWithSlash_iff.mp closed)]
    obtain ⟨before, split⟩ := closed
    rw [← split, List.dropLast_concat]
  obtain ⟨origin, chars⟩ := exists_chars_eq_append session.baseUrl (authority_of_isOnline online)
    noQuery noFragment
  have base : session.baseUrl.chars = origin ++ session.baseUrl.path.text := chars _
  apply String.toList_inj.mp
  simp only [Url.text, String.toList_append, String.toList_ofList]
  rw [chars, base, front, itemsOf_eq_placeItems online org plain, Path.text_append,
    text_api_placeItems]
  simp

/-- A path of two slashes loses both. -/
theorem text_place_of_two (online : session.IsOnline)
    (two : session.baseUrl.path.text = ['/', '/']) (slashFree : IsSlashFree session.baseItems)
    (org : IsPlainSegment session.org) (plain : ∀ segment ∈ segments, IsPlainSegment segment) :
    (Path.components (session.itemsOf segments)).text =
      '/' :: ("api/".toList ++ ['/'].intercalate (session.placeItems segments)) := by
  obtain ⟨items, path⟩ := online.path
  have own := baseItems_eq path
  have empty : IsSlashFree [[], []] := by
    unfold IsSlashFree
    decide
  rw [path, ← own] at two
  have pair : session.baseItems = [[], []] := Path.text_injective slashFree empty two
  have nothing : session.front = [] := by
    unfold front
    rw [pair]
    rfl
  rw [itemsOf_eq_placeItems online org plain, nothing, List.nil_append, text_api_placeItems]

/-- **The path of an accepted base URL ends with a slash** if nothing follows it. -/
theorem endsWithSlash_path {text : String} {base : Url}
    (accepted : Config.baseUrlOf text = .ok base) (noQuery : base.query = none)
    (noFragment : base.fragment = none) :
    EndsWithSlash base.path.text := by
  have canonical := Config.isCanonical_of_baseUrlOf accepted
  obtain ⟨authority, found, -⟩ := canonical.authority
  obtain ⟨items, path, some, -⟩ := canonical.path
  obtain ⟨first, rest, rfl⟩ := List.exists_cons_of_ne_nil some
  obtain ⟨origin, chars⟩ :=
    exists_chars_eq_append base (Option.isSome_of_mem found) noQuery noFragment
  have whole : base.chars = origin ++ base.path.text := chars base.path
  have closed := Config.endsWithSlash_of_baseUrlOf accepted
  rw [whole] at closed
  refine closed.of_suffix (List.suffix_append _ _) ?_
  rw [path, Path.text_cons]
  exact List.cons_ne_nil _ _

/-- **Every place is under the base URL** if and only if nothing follows the path of the base URL
and the path is not just two slashes. Nothing follows the path if the value that the base URL is
read from has neither a `?` nor a `#`. -/
theorem isDirectory_iff {text : String} {base : Url} (accepted : Config.baseUrlOf text = .ok base) :
    (IsDirectory base ↔
      base.query = none ∧ base.fragment = none ∧ base.path.text ≠ ['/', '/']) ∧
      ('?' ∉ text.toList → '#' ∉ text.toList → base.query = none ∧ base.fragment = none) := by
  refine ⟨⟨fun directory => ?_, ?_⟩, fun noQuery noFragment => ?_⟩
  · refine ⟨directory.query, directory.fragment, fun two => ?_⟩
    -- one place is enough: it lacks a slash that the base URL has
    let session : Session := ⟨base, "o", none⟩
    have online : session.IsOnline := Config.isOnline_of_baseUrlOf accepted
    obtain ⟨items, path, slashFree⟩ := Config.isSlashFree_of_baseUrlOf accepted
    have own : session.baseItems = items := baseItems_eq path
    rw [← own] at slashFree
    have org : IsPlainSegment "o" :=
      isPlainSegment_of_all (by decide) (by decide) (by decide)
    obtain ⟨place, found, written⟩ :=
      directory.places session [] rfl org (List.forall_mem_nil _)
    rw [orgUrl?_of_isOnline online] at found
    cases found
    obtain ⟨origin, chars⟩ := exists_chars_eq_append base (authority_of_isOnline online)
      directory.query directory.fragment
    have whole : base.chars = origin ++ base.path.text := chars base.path
    have texts := String.toList_inj.mpr written
    simp only [Url.text, String.toList_append, String.toList_ofList] at texts
    rw [chars, whole, two, text_place_of_two online two slashFree org (List.forall_mem_nil _),
      List.append_assoc, List.append_assoc] at texts
    have behind := List.append_cancel_left texts
    exact absurd (List.cons.inj behind).2 (by simp)
  · rintro ⟨noQuery, noFragment, notTwo⟩
    have closed := endsWithSlash_path accepted noQuery noFragment
    refine ⟨closed, noQuery, noFragment, ?_⟩
    rintro session segments rfl org plain
    have online := Config.isOnline_of_baseUrlOf accepted
    obtain ⟨items, path, slashFree⟩ := Config.isSlashFree_of_baseUrlOf accepted
    rw [← baseItems_eq path] at slashFree
    exact ⟨_, orgUrl?_of_isOnline online segments,
      text_place online slashFree notTwo closed noQuery noFragment org plain⟩
  · refine nothing_follows_path (Config.baseUrlOf_eq_ok_iff.mp accepted) ?_ ?_
    · exact fun member => (Config.mem_of_mem_closedBySlash member).elim (by decide) noQuery
    · exact fun member => (Config.mem_of_mem_closedBySlash member).elim (by decide) noFragment

/-- A URL at `http://zo.test:5080` without a fragment. -/
def localUrl (items : List (List Char)) (query : Option (List Char)) : Url where
  scheme := "http"
  authority := some ⟨[], none, some (.domain "zo.test"), some 5080⟩
  path := .components items
  query := query
  fragment := none

theorem isDirectory_iff_nested :
    Config.baseUrlOf "http://zo.test:5080/./o" = .ok (localUrl [['o'], []] none) ∧
      IsDirectory (localUrl [['o'], []] none) ∧
      ((Session.mk (localUrl [['o'], []] none) "my org" none).orgUrl? ["roles", "a/b"]).map
        Url.text = some "http://zo.test:5080/o/api/my%20org/roles/a%2Fb" := by
  have accepted : Config.baseUrlOf "http://zo.test:5080/./o" =
      .ok (localUrl [['o'], []] none) := by
    apply eq_ok_of_toOption
    decide +kernel
  exact ⟨accepted, (isDirectory_iff accepted).1.mpr ⟨rfl, rfl, by decide⟩, by decide +kernel⟩

/-- **The slash goes into the query**, and stays behind every place. A path of two slashes loses
both. -/
theorem not_isDirectory_queried :
    Config.baseUrlOf "http://zo.test:5080/o?q" = .ok (localUrl [['o']] (some ['q', '/'])) ∧
      ¬ IsDirectory (localUrl [['o']] (some ['q', '/'])) ∧
      ((Session.mk (localUrl [['o']] (some ['q', '/'])) "default" none).orgUrl? ["roles"]).map
        Url.text = some "http://zo.test:5080/o/api/default/roles?q/" ∧
      Config.baseUrlOf "http://zo.test:5080//" = .ok (localUrl [[], []] none) ∧
      ((Session.mk (localUrl [[], []] none) "default" none).orgUrl? ["roles"]).map Url.text =
        some "http://zo.test:5080/api/default/roles" := by
  have queried : Config.baseUrlOf "http://zo.test:5080/o?q" =
      .ok (localUrl [['o']] (some ['q', '/'])) := by
    apply eq_ok_of_toOption
    decide +kernel
  have slashes : Config.baseUrlOf "http://zo.test:5080//" = .ok (localUrl [[], []] none) := by
    apply eq_ok_of_toOption
    decide +kernel
  have refuted : ¬ IsDirectory (localUrl [['o']] (some ['q', '/'])) := by
    intro directory
    cases directory.query
  exact ⟨queried, refuted, by decide +kernel, slashes, by decide +kernel⟩

end Session

end LogProbe
