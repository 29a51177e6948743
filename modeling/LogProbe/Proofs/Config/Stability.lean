/-
**Accepted base URLs are stable.** The text of an accepted base URL is visible ASCII and ends with a
slash, so nothing is trimmed off or added when it is configured in turn, and it is read as the same
URL. On it every place has a URL with the same host, to which requests go out.

* `Config.endsWithSlash_of_baseUrlOf` — how the text of an accepted base URL ends.
* `Config.baseUrlOf_text` — the text is accepted as that URL, white space around it aside.
* `Session.exists_place` — the URLs of places.
* `Config.baseUrlOf_stable` — the law.
-/

import LogProbe.Proofs.Config.BaseUrl
import LogProbe.Proofs.Url.Ending

namespace LogProbe

namespace Config

/-! ### Texts of accepted base URLs -/

theorem endsWithSlash_closedBySlash (text : List Char) :
    Url.EndsWithSlash (closedBySlash text) := by
  unfold closedBySlash
  split
  · exact Url.endsWithSlash_iff.mpr ‹_›
  · exact List.suffix_append text ['/']

/-- **The text of an accepted base URL ends with a slash.** -/
theorem endsWithSlash_of_baseUrlOf {text : String} {url : Url}
    (accepted : baseUrlOf text = .ok url) : Url.EndsWithSlash url.chars :=
  Url.endsWithSlash_chars (baseUrlOf_eq_ok_iff.mp accepted) (endsWithSlash_closedBySlash _)

theorem isBlank_of_isVisible {c : Char} (visible : Percent.IsVisible c) :
    Text.isBlank c = false :=
  Percent.forall_ascii (P := fun c => Percent.IsVisible c → Text.isBlank c = false) (by decide)
    (by have := visible.2; omega) visible

/-- **The text of an accepted base URL is accepted as that URL**, with any white space around
it. -/
theorem baseUrlOf_text {text : String} {url : Url} (accepted : baseUrlOf text = .ok url)
    {before after : String} (blankBefore : Text.isAllBlank before = true)
    (blankAfter : Text.isAllBlank after = true) :
    baseUrlOf (before ++ url.text ++ after) = .ok url := by
  have canonical := isCanonical_of_baseUrlOf accepted
  have trimmed : (Text.trim (before ++ url.text ++ after)).toList = url.chars := by
    unfold Text.trim Url.text
    rw [String.toList_ofList, String.toList_append, String.toList_append, String.toList_ofList,
      Text.strip_append (List.all_eq_true.mp blankBefore) (List.all_eq_true.mp blankAfter),
      Text.strip_eq_self fun c member =>
        isBlank_of_isVisible (Url.isVisible_chars canonical c member)]
  have closed : closedBySlash url.chars = url.chars :=
    if_pos (Url.endsWithSlash_iff.mp (endsWithSlash_of_baseUrlOf accepted))
  rw [baseUrlOf_eq_ok_iff, trimmed, closed]
  exact Url.isReadFrom_chars canonical

end Config

/-! ### Places on accepted base URLs -/

/-- Every place of a session that is online has a URL with the authority of the base URL, to which
requests can be made. -/
theorem Session.exists_place {session : Session} (online : session.IsOnline)
    (segments : List String) :
    ∃ place, session.orgUrl? segments = some place ∧ place.scheme = session.baseUrl.scheme ∧
      place.authority = session.baseUrl.authority ∧
      ∀ method query content,
        (session.request? method (place.withQuery query) content).isSome = true := by
  refine ⟨_, orgUrl?_of_isOnline online segments, rfl, rfl, fun method query content => ?_⟩
  obtain ⟨found, queried⟩ := exists_withQuery_eq
    { session.baseUrl with path := .components (session.itemsOf segments) } query
  rw [queried]
  unfold request?
  rw [if_pos (by exact online.host)]
  rfl

namespace Config

/-- **The law of accepted base URLs.** An accepted base URL has a scheme of HTTP and a host that is
not empty. Its text, with any white space around it, is accepted as the same URL. On it every place
of every organisation has a URL, whatever the segments are, with the same scheme, host and port, and
requests to it can be made. -/
theorem baseUrlOf_stable {text : String} {url : Url} (accepted : baseUrlOf text = .ok url) :
    (url.scheme = "http" ∨ url.scheme = "https") ∧
      (∃ host, url.host? = some host ∧ host.text ≠ "") ∧
      (∀ before after : String, Text.isAllBlank before = true → Text.isAllBlank after = true →
        baseUrlOf (before ++ url.text ++ after) = .ok url) ∧
      ∀ session : Session, session.baseUrl = url → ∀ segments : List String,
        ∃ place, session.orgUrl? segments = some place ∧ place.scheme = url.scheme ∧
          place.authority = url.authority ∧
          ∀ method query content,
            (session.request? method (place.withQuery query) content).isSome = true := by
  have canonical := isCanonical_of_baseUrlOf accepted
  obtain ⟨host, found, readable⟩ := canonical.exists_host
  refine ⟨canonical.http, ⟨host, found, fun nothing => ?_⟩,
    fun before after => baseUrlOf_text accepted, ?_⟩
  · have some := Url.Host.text_ne_nil readable
    rw [nothing] at some
    exact some rfl
  · rintro session rfl segments
    exact Session.exists_place (isOnline_of_baseUrlOf accepted) segments

/-- The URL of a text with a user, an address, steps, a query and a fragment. -/
def awkwardUrl : Url where
  scheme := "http"
  authority := some {
    user := "a%40u%20s".toList
    password := some ['p']
    host := some (.ipv6 [1, 0, 0, 0, 0, 0, 0x203, 0x405])
    port := none }
  path := .components ["a%20b".toList, []]
  query := some "q%27".toList
  fragment := some "f/".toList

theorem baseUrlOf_stable_awkward :
    baseUrlOf " \tHTTP:\\\\a@u%20s:p@[1:0:0::2.3.4.5]:080\\..\\a b/./c/%2e%2E?q'#f" =
        .ok awkwardUrl ∧
      awkwardUrl.text = "http://a%40u%20s:p@[1::203:405]/a%20b/?q%27#f/" ∧
      baseUrlOf "\n http://a%40u%20s:p@[1::203:405]/a%20b/?q%27#f/ \t" = .ok awkwardUrl ∧
      ∃ place, (Session.mk awkwardUrl ".." none).orgUrl? [".", "\t"] = some place ∧
        place.authority = awkwardUrl.authority := by
  have accepted : baseUrlOf " \tHTTP:\\\\a@u%20s:p@[1:0:0::2.3.4.5]:080\\..\\a b/./c/%2e%2E?q'#f" =
      .ok awkwardUrl := by
    apply eq_ok_of_toOption
    decide +kernel
  have written : awkwardUrl.text = "http://a%40u%20s:p@[1::203:405]/a%20b/?q%27#f/" := by
    decide +kernel
  obtain ⟨-, -, again, places⟩ := baseUrlOf_stable accepted
  have read := again "\n " " \t" (by decide) (by decide)
  rw [written] at read
  obtain ⟨place, found, -, addressed, -⟩ := places ⟨awkwardUrl, "..", none⟩ rfl [".", "\t"]
  exact ⟨accepted, written, read, place, found, addressed⟩

end Config

end LogProbe
