/-
**Which lookups give a configuration.** There are four checks, of the base URL, the credentials, the
variant and the keyset, and the first that fails settles the error. Every check looks at the values
that are set, and a value of nothing but white space is not set, whatever the setting.

* `Config.Sets`, `Config.Omits` — a setting has a value, or is left out.
* `Config.IsAcceptable` — a lookup that passes the four checks.
* `Config.IsFault`, `Config.Error.place` — what is wrong with a setting, by itself, and its place
  among the checks.
* `Config.IsTakenFrom` — what a configuration takes from a lookup.
* `Config.ofLookup_accepts` — the law.
-/

import LogProbe.Proofs.Config.BaseUrl
import LogProbe.Proofs.Text.Blank
import LogProbe.Proofs.Url.Segment

namespace LogProbe

/-! ### Names of variants -/

namespace Variant

/-- A text names a variant: it holds the name, in letters of either case, between white space. -/
def IsNamedBy (variant : Variant) (text : String) : Prop :=
  ∃ front letters back, text.toList = front ++ letters ++ back ∧
    (∀ c ∈ front, Text.isBlank c = true) ∧ (∀ c ∈ back, Text.isBlank c = true) ∧
    letters.map Char.toLower = variant.name.toList

/-- No letter is white space, so that lower case makes none visible. -/
theorem isBlank_of_toLower {c d : Char} (lower : c.toLower = d) (visible : Text.isBlank d = false) :
    Text.isBlank c = false := by
  rcases Url.eq_or_of_toLower lower with rfl | ⟨number, low, high⟩
  · exact visible
  · simp [Text.isBlank]
    omega

theorem isBlank_of_mem_name (variant : Variant) :
    ∀ c ∈ variant.name.toList, Text.isBlank c = false := by
  have visible : (variant.name.toList.all fun c => !Text.isBlank c) = true := by
    cases variant <;> decide +kernel
  simpa using visible

theorem ofText?_eq_some_iff_folded {text : String} {variant : Variant} :
    ofText? text = some variant ↔ folded text = variant.name := by
  unfold ofText?
  constructor
  · intro found
    split at found
    · cases found
      assumption
    · cases found
      assumption
    · cases found
  · intro same
    rw [same]
    cases variant <;> rfl

/-- **The variant of a text is the one that it names.** -/
theorem ofText?_eq_some_iff {text : String} {variant : Variant} :
    ofText? text = some variant ↔ variant.IsNamedBy text := by
  rw [ofText?_eq_some_iff_folded]
  constructor
  · intro same
    obtain ⟨front, back, split, before, after⟩ := Text.exists_eq_strip Text.isBlank text.toList
    refine ⟨front, _, back, split, before, after, ?_⟩
    rw [← same, folded, String.toList_ofList]
  · rintro ⟨front, letters, back, split, before, after, lower⟩
    have visible : ∀ c ∈ letters, Text.isBlank c = false := fun c member =>
      isBlank_of_toLower rfl
        (isBlank_of_mem_name variant _ (lower ▸ List.mem_map_of_mem member))
    rw [folded, split, Text.strip_append before after, Text.strip_eq_self visible, lower,
      String.ofList_toList]

end Variant

namespace Config

variable {lookup : Lookup}

/-! ### Values that are set -/

/-- A setting has a value: what is looked up under its name is not white space alone. -/
def Sets (lookup : Lookup) (setting : Setting) (text : String) : Prop :=
  lookup setting.name = some text ∧ ∃ c ∈ text.toList, Text.isBlank c = false

/-- A setting is left out: nothing but white space is looked up under its name, if anything is. -/
def Omits (lookup : Lookup) (setting : Setting) : Prop :=
  ∀ text, lookup setting.name = some text → ∀ c ∈ text.toList, Text.isBlank c = true

theorem value?_eq_some_iff {setting : Setting} {text : String} :
    value? lookup setting = some text ↔ Sets lookup setting text := by
  simp [value?, Sets, Text.isAllBlank, Option.filter_eq_some_iff]

theorem value?_eq_none_iff {setting : Setting} :
    value? lookup setting = none ↔ Omits lookup setting := by
  simp [value?, Omits, Text.isAllBlank, Option.filter_eq_none_iff]

/-- What a setting stands for: a default where it is left out, and otherwise whatever its value
means. -/
def Selects {α : Type} (lookup : Lookup) (setting : Setting) (default : α)
    (means : String → α → Prop) (choice : α) : Prop :=
  (Omits lookup setting ∧ choice = default) ∨ ∃ text, Sets lookup setting text ∧ means text choice

/-- A setting whose value is taken as it is. -/
theorem getD_eq_iff {α : Type} {setting : Setting} {default choice : α} (f : String → α) :
    ((value? lookup setting).map f).getD default = choice ↔
      Selects lookup setting default (fun text choice => choice = f text) choice := by
  simp only [Selects, ← value?_eq_some_iff, ← value?_eq_none_iff]
  cases value? lookup setting with
  | none => simp [eq_comm]
  | some text => simp [eq_comm]

/-! ### The law in words -/

/-- A lookup that passes the four checks. -/
structure IsAcceptable (lookup : Lookup) : Prop where
  baseUrl : ∃ text url, Sets lookup .baseUrl text ∧ baseUrlOf text = .ok url
  signIn : Omits lookup .user ↔ Omits lookup .password
  variant : Omits lookup .variant ∨
    ∃ text, Sets lookup .variant text ∧ ∃ variant : Variant, variant.IsNamedBy text
  keyset : Omits lookup .keyset ∨
    ∃ text, Sets lookup .keyset text ∧ ∃ keyset, Keyset.ofText text = .ok keyset

/-- What is wrong with a lookup for one of the checks, whatever the others say. -/
inductive IsFault (lookup : Lookup) : Error → Prop
  | missing (omitted : Omits lookup .baseUrl) : IsFault lookup (.missing .baseUrl)
  | invalidUrl {text : String} {fault : UrlFault} (set : Sets lookup .baseUrl text)
      (refused : baseUrlOf text = .error fault) : IsFault lookup (.invalidUrl .baseUrl fault)
  | partialCredentials (unpaired : ¬ (Omits lookup .user ↔ Omits lookup .password)) :
      IsFault lookup .partialCredentials
  | variant {text : String} (set : Sets lookup .variant text)
      (unnamed : ∀ variant : Variant, ¬ variant.IsNamedBy text) :
      IsFault lookup (.variant (Variant.folded text))
  | keyset {text : String} {error : Keyset.Error} (set : Sets lookup .keyset text)
      (refused : Keyset.ofText text = .error error) : IsFault lookup (.keyset error)

/-- The place of the check that an error comes from. -/
def Error.place : Error → Nat
  | missing _ | invalidUrl _ _ => 0
  | partialCredentials => 1
  | variant _ => 2
  | keyset _ => 3

/-- What a configuration takes from a lookup. -/
structure IsTakenFrom (lookup : Lookup) (config : Config) : Prop where
  baseUrl : ∃ text, Sets lookup .baseUrl text ∧ baseUrlOf text = .ok config.baseUrl
  credentials : (Omits lookup .user ∧ Omits lookup .password ∧ config.credentials = none) ∨
    ∃ user password, Sets lookup .user user ∧ Sets lookup .password password ∧
      config.credentials = some ⟨user, password⟩
  variant : Selects lookup .variant .tink (fun text variant => variant.IsNamedBy text)
    config.variant
  keyset : Selects lookup .keyset .shared (fun text keyset => Keyset.ofText text = .ok keyset)
    config.keyset
  org : Selects lookup .org "default" (fun text org => org = text) config.org
  stream : Selects lookup .stream "default" (fun text stream => stream = text) config.stream
  fixture : Selects lookup .fixture .bundled (fun text fixture => fixture = .file text)
    config.fixture

/-! ### The four checks -/

theorem requiredBaseUrl_of_refused {text : String} {fault : UrlFault}
    (refused : baseUrlOf text = .error fault) :
    requiredBaseUrl (some text) = .error (.invalidUrl .baseUrl fault) := by
  unfold requiredBaseUrl
  simp only [refused]

theorem requiredBaseUrl_eq_ok_iff {url : Url} :
    requiredBaseUrl (value? lookup .baseUrl) = .ok url ↔
      ∃ text, Sets lookup .baseUrl text ∧ baseUrlOf text = .ok url := by
  simp only [← value?_eq_some_iff]
  cases value? lookup .baseUrl with
  | none => exact ⟨nofun, nofun⟩
  | some text =>
    simp only [Option.some.injEq, exists_eq_left']
    cases parsed : baseUrlOf text with
    | error fault =>
      rw [requiredBaseUrl_of_refused parsed]
      exact ⟨nofun, nofun⟩
    | ok other =>
      rw [requiredBaseUrl_of_baseUrlOf parsed]
      simp only [Except.ok.injEq]

theorem requiredBaseUrl_eq_error_iff {error : Error} :
    requiredBaseUrl (value? lookup .baseUrl) = .error error ↔
      IsFault lookup error ∧ error.place = 0 := by
  constructor
  · intro failed
    unfold requiredBaseUrl at failed
    split at failed
    · rename_i omitted
      cases failed
      exact ⟨.missing (value?_eq_none_iff.mp omitted), rfl⟩
    · rename_i text set
      split at failed
      · rename_i fault refused
        cases failed
        exact ⟨.invalidUrl (value?_eq_some_iff.mp set) refused, rfl⟩
      · cases failed
  · rintro ⟨fault, place⟩
    cases fault with
    | missing omitted =>
      rw [value?_eq_none_iff.mpr omitted]
      rfl
    | invalidUrl set refused =>
      rw [value?_eq_some_iff.mpr set, requiredBaseUrl_of_refused refused]
    | partialCredentials | variant | keyset => cases place

theorem credentialsOf_eq_ok_iff {credentials : Option Credentials} :
    credentialsOf (value? lookup .user) (value? lookup .password) = .ok credentials ↔
      (Omits lookup .user ∧ Omits lookup .password ∧ credentials = none) ∨
        ∃ user password, Sets lookup .user user ∧ Sets lookup .password password ∧
          credentials = some ⟨user, password⟩ := by
  simp only [← value?_eq_some_iff, ← value?_eq_none_iff]
  cases value? lookup .user <;> cases value? lookup .password <;> simp [credentialsOf, eq_comm]

theorem credentialsOf_eq_error_iff {error : Error} :
    credentialsOf (value? lookup .user) (value? lookup .password) = .error error ↔
      IsFault lookup error ∧ error.place = 1 := by
  have refusal : credentialsOf (value? lookup .user) (value? lookup .password) = .error error ↔
      error = .partialCredentials ∧ ¬ (Omits lookup .user ↔ Omits lookup .password) := by
    simp only [← value?_eq_none_iff]
    cases value? lookup .user <;> cases value? lookup .password <;> simp [credentialsOf, eq_comm]
  rw [refusal]
  constructor
  · rintro ⟨rfl, unpaired⟩
    exact ⟨.partialCredentials unpaired, rfl⟩
  · rintro ⟨fault, place⟩
    cases fault with
    | partialCredentials unpaired => exact ⟨rfl, unpaired⟩
    | missing | invalidUrl | variant | keyset => cases place

theorem variantOf_eq_ok_iff {variant : Variant} :
    variantOf (value? lookup .variant) = .ok variant ↔
      Selects lookup .variant .tink (fun text variant => variant.IsNamedBy text) variant := by
  simp only [Selects, ← value?_eq_some_iff, ← value?_eq_none_iff, ← Variant.ofText?_eq_some_iff]
  cases value? lookup .variant with
  | none => simp [variantOf, eq_comm]
  | some text =>
    simp only [variantOf, Option.some.injEq, exists_eq_left', reduceCtorEq, false_and, false_or]
    cases Variant.ofText? text <;> simp

theorem variantOf_eq_error_iff {error : Error} :
    variantOf (value? lookup .variant) = .error error ↔
      IsFault lookup error ∧ error.place = 2 := by
  constructor
  · intro failed
    unfold variantOf at failed
    split at failed
    · cases failed
    · rename_i text set
      split at failed
      · rename_i unnamed
        cases failed
        refine ⟨.variant (value?_eq_some_iff.mp set) fun variant named => ?_, rfl⟩
        rw [Variant.ofText?_eq_some_iff.mpr named] at unnamed
        cases unnamed
      · cases failed
  · rintro ⟨fault, place⟩
    cases fault with
    | variant set unnamed =>
      have none : Variant.ofText? _ = none := Option.eq_none_iff_forall_ne_some.mpr
        fun variant found => unnamed variant (Variant.ofText?_eq_some_iff.mp found)
      rw [value?_eq_some_iff.mpr set]
      simp only [variantOf, none]
    | missing | invalidUrl | partialCredentials | keyset => cases place

theorem keysetOf_of_set (text : String) :
    keysetOf (some text) = (Keyset.ofText text).mapError .keyset := by
  dsimp only [keysetOf]
  cases Keyset.ofText text <;> rfl

theorem keysetOf_eq_ok_iff {keyset : Keyset} :
    keysetOf (value? lookup .keyset) = .ok keyset ↔
      Selects lookup .keyset .shared (fun text keyset => Keyset.ofText text = .ok keyset)
        keyset := by
  simp only [Selects, ← value?_eq_some_iff, ← value?_eq_none_iff]
  cases set : value? lookup .keyset with
  | none =>
    rw [keysetOf_of_unset rfl]
    simp [eq_comm]
  | some text =>
    simp only [keysetOf_of_set, Option.some.injEq, exists_eq_left', reduceCtorEq, false_and,
      false_or]
    cases Keyset.ofText text <;> simp [Except.mapError]

theorem keysetOf_eq_error_iff {error : Error} :
    keysetOf (value? lookup .keyset) = .error error ↔ IsFault lookup error ∧ error.place = 3 := by
  constructor
  · intro failed
    cases set : value? lookup .keyset with
    | none =>
      rw [keysetOf_of_unset set] at failed
      cases failed
    | some text =>
      rw [set, keysetOf_of_set] at failed
      cases read : Keyset.ofText text with
      | error cause =>
        rw [read] at failed
        cases failed
        exact ⟨.keyset (value?_eq_some_iff.mp set) read, rfl⟩
      | ok keyset =>
        rw [read] at failed
        cases failed
  · rintro ⟨fault, place⟩
    cases fault with
    | keyset set refused =>
      rw [value?_eq_some_iff.mpr set, keysetOf_of_set, refused]
      rfl
    | missing | invalidUrl | partialCredentials | variant => cases place

/-! ### The checks one after the other -/

/-- The first fault among the checks from a place on. -/
def IsFirst (lookup : Lookup) (place : Nat) (error : Error) : Prop :=
  IsFault lookup error ∧ place ≤ error.place ∧
    ∀ other, IsFault lookup other → place ≤ other.place → error.place ≤ other.place

/-- **A check and those behind it fail for the first fault**, if the check fails for the faults with
its place and those behind it for the first fault after that. -/
theorem bind_eq_error_iff {α β : Type} {check : Except Error α} {next : α → Except Error β}
    {place : Nat}
    (judged : ∀ error, check = .error error ↔ IsFault lookup error ∧ error.place = place)
    (later : ∀ value, check = .ok value → ∀ error,
      next value = .error error ↔ IsFirst lookup (place + 1) error) (error : Error) :
    check.bind next = .error error ↔ IsFirst lookup place error := by
  cases check with
  | error cause =>
    obtain ⟨fault, here⟩ := (judged cause).mp rfl
    constructor
    · intro failed
      cases failed
      exact ⟨fault, here.ge, fun other _ behind => here.symm ▸ behind⟩
    · rintro ⟨own, behind, least⟩
      have same := le_antisymm (here ▸ least cause fault here.ge) behind
      cases (judged error).mpr ⟨own, same⟩
      rfl
  | ok value =>
    have passed {other : Error} (fault : IsFault lookup other) : other.place ≠ place :=
      fun here => nomatch (judged other).mpr ⟨fault, here⟩
    refine (later value rfl error).trans ⟨?_, ?_⟩
    · rintro ⟨fault, behind, least⟩
      refine ⟨fault, by omega, fun other also reached => least other also ?_⟩
      have := passed also
      omega
    · rintro ⟨fault, behind, least⟩
      refine ⟨fault, ?_, fun other also reached => least other also (by omega)⟩
      have := passed fault
      omega

theorem place_lt (error : Error) : error.place < 4 := by
  cases error <;> simp [Error.place]

/-- **The error of a lookup is its first fault.** -/
theorem ofLookup_eq_error_iff {error : Error} :
    ofLookup lookup = .error error ↔ IsFault lookup error ∧
      ∀ other, IsFault lookup other → error.place ≤ other.place := by
  have first : ofLookup lookup = .error error ↔ IsFirst lookup 0 error := by
    refine bind_eq_error_iff (fun _ => requiredBaseUrl_eq_error_iff) (fun _ _ => ?_) error
    refine bind_eq_error_iff (fun _ => credentialsOf_eq_error_iff) fun _ _ => ?_
    refine bind_eq_error_iff (fun _ => variantOf_eq_error_iff) fun _ _ => ?_
    refine bind_eq_error_iff (fun _ => keysetOf_eq_error_iff) fun _ _ error => ?_
    refine ⟨nofun, fun ⟨_, behind, _⟩ => ?_⟩
    exact absurd (place_lt error) (Nat.not_lt.mpr behind)
  rw [first]
  simp [IsFirst]

/-- **A lookup gives the configuration that is taken from it.** -/
theorem ofLookup_eq_ok_iff {config : Config} :
    ofLookup lookup = .ok config ↔ IsTakenFrom lookup config := by
  constructor
  · intro accepted
    unfold ofLookup at accepted
    obtain ⟨baseUrl, required, accepted⟩ := exists_of_bind_eq_ok accepted
    obtain ⟨credentials, signIn, accepted⟩ := exists_of_bind_eq_ok accepted
    obtain ⟨variant, kind, accepted⟩ := exists_of_bind_eq_ok accepted
    obtain ⟨keyset, keys, accepted⟩ := exists_of_bind_eq_ok accepted
    cases accepted
    exact {
      baseUrl := requiredBaseUrl_eq_ok_iff.mp required
      credentials := credentialsOf_eq_ok_iff.mp signIn
      variant := variantOf_eq_ok_iff.mp kind
      keyset := keysetOf_eq_ok_iff.mp keys
      org := (getD_eq_iff id).mp (by rw [Option.map_id_fun, id])
      stream := (getD_eq_iff id).mp (by rw [Option.map_id_fun, id])
      fixture := (getD_eq_iff Fixture.file).mp rfl }
  · intro taken
    have org := (getD_eq_iff id).mpr taken.org
    have stream := (getD_eq_iff id).mpr taken.stream
    have fixture := (getD_eq_iff Fixture.file).mpr taken.fixture
    rw [Option.map_id_fun, id] at org stream
    unfold ofLookup
    simp only [requiredBaseUrl_eq_ok_iff.mpr taken.baseUrl,
      credentialsOf_eq_ok_iff.mpr taken.credentials, variantOf_eq_ok_iff.mpr taken.variant,
      keysetOf_eq_ok_iff.mpr taken.keyset, org, stream, fixture]
    rfl

/-! ### Which lookups are accepted -/

theorem omits_or_sets (lookup : Lookup) (setting : Setting) :
    Omits lookup setting ∨ ∃ text, Sets lookup setting text := by
  simp only [← value?_eq_some_iff, ← value?_eq_none_iff]
  exact Option.eq_none_or_eq_some _

theorem exists_selects_iff {α : Type} {setting : Setting} {default : α}
    {means : String → α → Prop} :
    (∃ choice, Selects lookup setting default means choice) ↔
      Omits lookup setting ∨ ∃ text, Sets lookup setting text ∧ ∃ choice, means text choice := by
  constructor
  · rintro ⟨choice, ⟨omitted, -⟩ | ⟨text, set, meant⟩⟩
    · exact .inl omitted
    · exact .inr ⟨text, set, choice, meant⟩
  · rintro (omitted | ⟨text, set, choice, meant⟩)
    · exact ⟨default, .inl ⟨omitted, rfl⟩⟩
    · exact ⟨choice, .inr ⟨text, set, meant⟩⟩

/-- A value that is taken as it is can be any. -/
theorem exists_selects_value {α : Type} (lookup : Lookup) (setting : Setting) (default : α)
    (f : String → α) :
    ∃ choice, Selects lookup setting default (fun text choice => choice = f text) choice :=
  exists_selects_iff.mpr ((omits_or_sets lookup setting).imp_right
    fun ⟨text, set⟩ => ⟨text, set, f text, rfl⟩)

/-- There are credentials, or there need not be any, if both of their parts are set or neither
is. -/
theorem exists_credentialsOf_iff :
    (∃ credentials,
      credentialsOf (value? lookup .user) (value? lookup .password) = .ok credentials) ↔
      (Omits lookup .user ↔ Omits lookup .password) := by
  simp only [← value?_eq_none_iff]
  cases value? lookup .user <;> cases value? lookup .password <;> simp [credentialsOf]

/-- **A lookup gives a configuration exactly if it passes the four checks.** -/
theorem exists_ofLookup_iff : (∃ config, ofLookup lookup = .ok config) ↔ IsAcceptable lookup := by
  simp only [ofLookup_eq_ok_iff]
  constructor
  · rintro ⟨config, taken⟩
    obtain ⟨text, set, parsed⟩ := taken.baseUrl
    exact {
      baseUrl := ⟨text, config.baseUrl, set, parsed⟩
      signIn := exists_credentialsOf_iff.mp ⟨_, credentialsOf_eq_ok_iff.mpr taken.credentials⟩
      variant := exists_selects_iff.mp ⟨_, taken.variant⟩
      keyset := exists_selects_iff.mp ⟨_, taken.keyset⟩ }
  · intro acceptable
    obtain ⟨text, baseUrl, set, parsed⟩ := acceptable.baseUrl
    obtain ⟨credentials, signIn⟩ := exists_credentialsOf_iff.mpr acceptable.signIn
    obtain ⟨variant, kind⟩ := exists_selects_iff.mpr acceptable.variant
    obtain ⟨keyset, keys⟩ := exists_selects_iff.mpr acceptable.keyset
    obtain ⟨org, named⟩ := exists_selects_value lookup .org "default" id
    obtain ⟨stream, fed⟩ := exists_selects_value lookup .stream "default" id
    obtain ⟨fixture, placed⟩ := exists_selects_value lookup .fixture .bundled Fixture.file
    exact ⟨⟨baseUrl, org, stream, credentials, variant, keyset, fixture⟩, {
      baseUrl := ⟨text, set, parsed⟩
      credentials := credentialsOf_eq_ok_iff.mp signIn
      variant := kind
      keyset := keys
      org := named
      stream := fed
      fixture := placed }⟩

/-- **White space is as good as nothing**, and only the eight settings are looked at. -/
theorem ofLookup_congr {other : Lookup}
    (same : ∀ setting : Setting, other setting.name = lookup setting.name ∨
      Omits other setting ∧ Omits lookup setting) : ofLookup other = ofLookup lookup := by
  have values (setting : Setting) : value? other setting = value? lookup setting := by
    rcases same setting with equal | ⟨there, here⟩
    · rw [value?, value?, equal]
    · rw [value?_eq_none_iff.mpr there, value?_eq_none_iff.mpr here]
  unfold ofLookup
  simp only [values]

/-- **Which lookups give a configuration, which one, and what the others are refused for.** A lookup
is accepted exactly if the base URL is set to one, both parts of the credentials are set or neither
is, the variant is left out or named, and the keyset is left out or read. What is set is then taken
as it is. Otherwise the error is that of the first check that fails. It makes no difference whether
a setting is missing or holds white space, nor what is found under any other name. -/
theorem ofLookup_accepts (lookup : Lookup) :
    ((∃ config, ofLookup lookup = .ok config) ↔ IsAcceptable lookup) ∧
    (∀ config, ofLookup lookup = .ok config ↔ IsTakenFrom lookup config) ∧
    (∀ error, ofLookup lookup = .error error ↔ IsFault lookup error ∧
      ∀ other, IsFault lookup other → error.place ≤ other.place) ∧
    ∀ other : Lookup,
      (∀ setting : Setting, other setting.name = lookup setting.name ∨
        Omits other setting ∧ Omits lookup setting) → ofLookup other = ofLookup lookup :=
  ⟨exists_ofLookup_iff, fun _ => ofLookup_eq_ok_iff, fun _ => ofLookup_eq_error_iff,
    fun _ => ofLookup_congr⟩

/-- A lookup of a user without a password, with a variant and a keyset that are not right. -/
def faultyLookup (user : Option String) : Lookup := fun name =>
  if name = Setting.baseUrl.name then some "http://zo.test:5080/"
  else if name = Setting.user.name then user
  else if name = Setting.variant.name then some "TONK"
  else if name = Setting.keyset.name then some "[]"
  else none

/-- If the user is white space, it is the variant that is refused, not the credentials. -/
theorem ofLookup_accepts_blank_user :
    ofLookup (faultyLookup (some " \u2003")) = .error (.variant "tonk") ∧
      ofLookup (faultyLookup none) = .error (.variant "tonk") := by
  have values : value? (faultyLookup none) .baseUrl = some "http://zo.test:5080/" ∧
      value? (faultyLookup none) .variant = some "TONK" ∧
      value? (faultyLookup none) .user = none ∧ value? (faultyLookup none) .password = none := by
    decide +kernel
  obtain ⟨url, variant, user, password⟩ := values
  have unnamed (kind : Variant) : ¬ kind.IsNamedBy "TONK" := by
    rw [← Variant.ofText?_eq_some_iff]
    cases kind <;> decide +kernel
  have folded : Variant.folded "TONK" = "tonk" := by decide +kernel
  obtain ⟨-, -, refused, congr⟩ := ofLookup_accepts (faultyLookup none)
  have failed : ofLookup (faultyLookup none) = .error (.variant "tonk") := by
    refine (refused _).mpr ⟨folded ▸ .variant (value?_eq_some_iff.mp variant) unnamed, ?_⟩
    rintro other fault
    cases fault with
    | missing omitted => cases url.symm.trans (value?_eq_none_iff.mpr omitted)
    | invalidUrl set wrong =>
      cases url.symm.trans (value?_eq_some_iff.mpr set)
      cases wrong.symm.trans baseUrlOf_sampleSession
    | partialCredentials unpaired =>
      exact absurd ⟨fun _ => value?_eq_none_iff.mp password, fun _ => value?_eq_none_iff.mp user⟩
        unpaired
    | variant | keyset => exact Nat.le_of_ble_eq_true rfl
  refine ⟨(congr _ fun setting => ?_).trans failed, failed⟩
  by_cases same : setting = .user
  · subst same
    refine .inr ⟨value?_eq_none_iff.mp ?_, value?_eq_none_iff.mp user⟩
    decide +kernel
  · left
    have other : setting.name ≠ Setting.user.name := Setting.name_injective.ne same
    simp only [faultyLookup, if_neg other]

end Config

end LogProbe
