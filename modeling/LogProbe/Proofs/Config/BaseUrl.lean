/-
**Base URLs that are accepted.** Reading a URL in a scheme of HTTP fails where there is no host, and
its path always has components. So requests go out for every configuration.

* `Config.baseUrlOf_eq_ok_iff`, `Config.isCanonical_of_baseUrlOf` — the base URLs that are accepted.
* `Config.isSlashFree_of_baseUrlOf` — the path of an accepted base URL.
* `Config.isOnline_of_baseUrlOf`, `Config.isOnline_of_ofLookup` — sessions on an accepted base URL
  are online.
* `Config.ofLookup_of_unset` — what is configured where the variant and the keyset are left out.
-/

import LogProbe.Proofs.Keyset.RoundTrip
import LogProbe.Proofs.Session.Call
import LogProbe.Proofs.Url.Canonical

namespace LogProbe

theorem eq_ok_of_toOption {ε α : Type} {result : Except ε α} {value : α}
    (found : result.toOption = some value) : result = .ok value := by
  cases result with
  | error error => cases found
  | ok other => exact congrArg Except.ok (Option.some.inj found)

/-- Settings are told apart by their names. -/
theorem Setting.name_injective : Function.Injective Setting.name := by
  intro first second same
  cases first <;> cases second <;> first | rfl | exact absurd same (by decide)

namespace Config

/-- Nothing but a slash is added to the text of a base URL. -/
theorem mem_of_mem_closedBySlash {text : String} {c : Char}
    (member : c ∈ closedBySlash (Text.trim text).toList) : c = '/' ∨ c ∈ text.toList := by
  have inside (member : c ∈ (Text.trim text).toList) : c ∈ text.toList := by
    obtain ⟨front, back, split, -, -⟩ := Text.exists_eq_strip Text.isBlank text.toList
    rw [Text.trim, String.toList_ofList] at member
    rw [split]
    exact List.mem_append_left _ (List.mem_append_right _ member)
  unfold closedBySlash at member
  split at member
  · exact .inr (inside member)
  · rcases List.mem_append.mp member with before | slash
    · exact .inr (inside before)
    · exact .inl (List.mem_singleton.mp slash)

/-- **A base URL is accepted** if the text, closed by a slash, is a URL in a scheme of HTTP. -/
theorem baseUrlOf_eq_ok_iff {text : String} {url : Url} :
    baseUrlOf text = .ok url ↔ Url.IsReadFrom (closedBySlash (Text.trim text).toList) url := by
  rw [← Url.parse_eq_ok_iff]
  unfold baseUrlOf
  constructor
  · intro accepted
    split at accepted
    · cases accepted
    · rename_i parsed
      split at accepted
      · rename_i usable
        cases accepted
        exact ⟨parsed, (Bool.and_eq_true_iff.mp usable).2⟩
      · cases accepted
  · intro read
    have canonical := Url.isCanonical_of_isReadFrom (Url.parse_eq_ok_iff.mp read)
    obtain ⟨authority, found, -⟩ := canonical.authority
    have base : url.isBase = true := by
      unfold Url.isBase
      rw [found]
    rw [read.1]
    simp only [base, read.2, Bool.and_self, if_true]

/-- The parts of an accepted base URL are in encoded form. -/
theorem isCanonical_of_baseUrlOf {text : String} {url : Url}
    (accepted : baseUrlOf text = .ok url) : url.IsCanonical :=
  Url.isCanonical_of_isReadFrom (baseUrlOf_eq_ok_iff.mp accepted)

/-- **The path of an accepted base URL** has components, and none of them holds a slash. -/
theorem isSlashFree_of_baseUrlOf {text : String} {url : Url}
    (accepted : baseUrlOf text = .ok url) :
    ∃ items, url.path = .components items ∧ Url.IsSlashFree items := by
  obtain ⟨items, path, -, settled⟩ := (isCanonical_of_baseUrlOf accepted).path
  exact ⟨items, path, Url.IsSettled.isSlashFree settled⟩

/-- **Sessions on an accepted base URL are online.** -/
theorem isOnline_of_baseUrlOf {text : String} {session : Session}
    (accepted : baseUrlOf text = .ok session.baseUrl) : session.IsOnline := by
  have canonical := isCanonical_of_baseUrlOf accepted
  obtain ⟨items, path, -⟩ := canonical.path
  obtain ⟨host, found, -⟩ := canonical.exists_host
  have http := (Url.parse_eq_ok_iff.mpr (baseUrlOf_eq_ok_iff.mp accepted)).2
  exact ⟨http, Option.isSome_of_mem found, items, path⟩

/-- The base URL of a configuration is the one that was set. -/
theorem exists_baseUrlOf_of_ofLookup {lookup : Lookup} {config : Config}
    (accepted : ofLookup lookup = .ok config) : ∃ text, baseUrlOf text = .ok config.baseUrl := by
  unfold ofLookup at accepted
  obtain ⟨baseUrl, required, accepted⟩ := exists_of_bind_eq_ok accepted
  obtain ⟨credentials, -, accepted⟩ := exists_of_bind_eq_ok accepted
  obtain ⟨variant, -, accepted⟩ := exists_of_bind_eq_ok accepted
  obtain ⟨keyset, -, accepted⟩ := exists_of_bind_eq_ok accepted
  cases accepted
  unfold requiredBaseUrl at required
  split at required
  · cases required
  · rename_i text set
    split at required
    · cases required
    · rename_i url found
      cases required
      exact ⟨text, found⟩

/-- **Sessions of an accepted configuration are online.** -/
theorem isOnline_of_ofLookup {lookup : Lookup} {config : Config}
    (accepted : ofLookup lookup = .ok config) : (Session.ofConfig config).IsOnline := by
  obtain ⟨text, found⟩ := exists_baseUrlOf_of_ofLookup accepted
  exact isOnline_of_baseUrlOf found

theorem requiredBaseUrl_of_baseUrlOf {text : String} {url : Url}
    (accepted : baseUrlOf text = .ok url) : requiredBaseUrl (some text) = .ok url := by
  unfold requiredBaseUrl
  simp only [accepted]

/-! ### Settings that are left out -/

/-- Where no keyset is set, the shared one is used. -/
theorem keysetOf_of_unset {text : Option String} (unset : text = none) :
    keysetOf text = .ok .shared := by
  unfold keysetOf
  -- `unset` is used in the cases only: a missing text in the goal would have the keyset read again
  split
  · rename_i error failed
    rw [unset] at failed
    cases failed.symm.trans Keyset.embedded_eq
  · rename_i keyset found
    rw [unset] at found
    cases found.symm.trans Keyset.embedded_eq
    rfl

/-- **A configuration without a variant and a keyset** encrypts with the shared keyset. -/
theorem ofLookup_of_unset {lookup : Lookup} {baseUrl : Url} {credentials : Option Credentials}
    (url : requiredBaseUrl (value? lookup .baseUrl) = .ok baseUrl)
    (signIn : credentialsOf (value? lookup .user) (value? lookup .password) = .ok credentials)
    (variant : value? lookup .variant = none) (keyset : value? lookup .keyset = none) :
    ofLookup lookup = .ok {
      baseUrl, credentials
      variant := .tink
      keyset := .shared
      org := (value? lookup .org).getD "default"
      stream := (value? lookup .stream).getD "default"
      fixture := ((value? lookup .fixture).map Fixture.file).getD .bundled } := by
  unfold ofLookup
  simp only [url, signIn, variant, variantOf, keysetOf_of_unset keyset]
  rfl

/-- A lookup that sets a base URL and nothing else. -/
def localLookup : Lookup := fun name =>
  if name = Setting.baseUrl.name then some "http://h/" else none

theorem exists_ofLookup_local : ∃ config, ofLookup localLookup = .ok config ∧
    config.variant = .tink ∧ config.keyset = .shared := by
  have unset {setting : Setting} (other : setting ≠ .baseUrl) :
      value? localLookup setting = none := by
    unfold value? localLookup
    rw [if_neg (Setting.name_injective.ne other), Option.filter_none]
  have parsed : (requiredBaseUrl (value? localLookup .baseUrl)).isOk = true := by decide +kernel
  cases url : requiredBaseUrl (value? localLookup .baseUrl) with
  | ok baseUrl =>
    have signIn : credentialsOf (value? localLookup .user) (value? localLookup .password) =
        .ok none := by
      rw [unset (by decide), unset (by decide)]
      rfl
    exact ⟨_, ofLookup_of_unset url signIn (unset (by decide)) (unset (by decide)), rfl, rfl⟩
  | error error =>
    rw [url] at parsed
    cases parsed

end Config

/-- The session of the default organisation at `http://zo.test:5080/`. -/
def sampleSession : Session where
  baseUrl := {
    scheme := "http"
    authority := some ⟨[], none, some (.domain "zo.test"), some 5080⟩
    path := .components [[]]
    query := none
    fragment := none }
  org := "default"
  credentials := none

theorem isOnline_sampleSession : sampleSession.IsOnline := ⟨by decide, rfl, [[]], rfl⟩

theorem baseUrlOf_sampleSession :
    Config.baseUrlOf "http://zo.test:5080/" = .ok sampleSession.baseUrl := by
  -- Results of reading have no decidable equality here; their optional values do.
  apply eq_ok_of_toOption
  decide +kernel

end LogProbe
