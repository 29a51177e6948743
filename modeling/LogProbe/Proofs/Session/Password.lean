/-
**What the password has a part in.** A probe is run with a configuration. The password in it goes
into the values of authorization headers and nowhere else: no ending, no line of the log, no method,
URL or content of a request, and no choice of what is asked next depends on it.

* `Session.withPassword`, `Config.withPassword` — the same with another password.
* `Session.redacted_call` — calls with another password differ in authorization values only, and
  from there on the parts of every probe.
* `Scenario`, `Scenario.probe` — what can be run with a configuration.
* `Config.ofLookup_of_password` — lookups that differ in the password only give configurations that
  do.
* `Scenario.course_without_password` — the law for every scenario and every script.
-/

import LogProbe.Ingest.Scenario
import LogProbe.Proofs.Probe.Redaction
import LogProbe.Proofs.Roles.Sequence

namespace LogProbe

open Probe (redacted_seq_congr redacted_ending_congr redacted_attempt_congr)

/-- Credentials with another password. -/
def Credentials.withPassword (password : String) (credentials : Credentials) : Credentials :=
  { credentials with password }

/-- A configuration with another password, if it has one at all. -/
def Config.withPassword (password : String) (config : Config) : Config :=
  { config with credentials := config.credentials.map (Credentials.withPassword password) }

namespace Session

variable {α : Type} {session : Session} {password : String}

/-- A session with another password, if it has one at all. -/
def withPassword (password : String) (session : Session) : Session :=
  { session with credentials := session.credentials.map (Credentials.withPassword password) }

@[simp] theorem ofConfig_withPassword (config : Config) :
    ofConfig (config.withPassword password) = (ofConfig config).withPassword password := rfl

/-! ### Calls -/

/-- Whether anyone signs in is logged, and nothing about who it is. -/
theorem opening_withPassword : (session.withPassword password).opening = session.opening := by
  unfold opening withPassword
  rw [Option.isSome_map]

theorem redacted_start {next other : Session → Probe α}
    (after : ∀ session : Session,
      (next (session.withPassword password)).redacted = (other session).redacted)
    (config : Config) :
    (start (config.withPassword password) >>= next).redacted =
      (start config >>= other).redacted := by
  unfold start
  simp only [ofConfig_withPassword, opening_withPassword]
  exact congrArg (Probe.logged _) (after (ofConfig config))

/-- A request with another password has other values in as many authorization headers. -/
theorem redacted_request? (method : Http.Method) (url : Url) (content : Option Http.Content) :
    ((session.withPassword password).request? method url content).map Http.Request.redacted =
      (session.request? method url content).map Http.Request.redacted := by
  unfold request?
  by_cases host : url.host?.isSome = true
  · have values : ((session.withPassword password).authorization url).map (fun _ => "") =
        (session.authorization url).map fun _ => "" := by
      unfold authorization withPassword
      cases session.credentials with
      | none => rfl
      | some credentials => simp only [Option.map_some, Option.toList_some, List.map_append,
          List.map_cons, List.map_nil]
    simp only [if_pos host, Option.map_some, Http.Request.redacted, values]
  · rw [if_neg host, if_neg host]

/-- To take in a response is not to ask for another one. -/
theorem redacted_receive (request : Http.Request) (delivery : Delivery) :
    (receive request delivery).redacted = receive request delivery := by
  cases delivery <;> rfl

/-- Where a request goes and how its response is taken in is settled without its authorization. -/
theorem redacted_execute (url : Url) (request : Option Http.Request) :
    (execute url request).redacted = execute url (request.map Http.Request.redacted) := by
  cases request with
  | none => rfl
  | some request =>
    rw [Option.map_some]
    by_cases http : request.url.isHttp = true
    · have also : request.redacted.url.isHttp = true := http
      simp only [execute, if_pos http, if_pos also, Probe.redacted]
      refine congrArg (Probe.sent request.redacted) (funext fun delivery => ?_)
      rw [redacted_receive]
      cases delivery <;> rfl
    · have also : ¬ request.redacted.url.isHttp = true := http
      simp only [execute, if_neg http, if_neg also]
      rfl

/-- **Calls with another password differ in authorization values only.** -/
theorem redacted_call (method : Http.Method) (segments : List String)
    (query : List (String × String)) (value : Option Json.Value) :
    ((session.withPassword password).call method segments query value).redacted =
      (session.call method segments query value).redacted := by
  have place : (session.withPassword password).orgUrl? segments = session.orgUrl? segments := rfl
  unfold call
  rw [place]
  cases session.orgUrl? segments with
  | none => rfl
  | some url => simp only [redacted_execute, redacted_request?]

end Session

/-! ### Requests about roles -/

namespace Roles

variable {α : Type} {session : Session} {password : String} {name : RoleName}

theorem redacted_release :
    (release (session.withPassword password) name).redacted = (release session name).redacted := by
  unfold release get delete Session.get Session.delete
  refine redacted_seq_congr (Session.redacted_call ..) fun current => ?_
  split
  · rfl
  · exact redacted_seq_congr (Session.redacted_call ..) fun deleted => rfl

/-- **The scope of a role with another password** differs in authorization values only if the probe
of its body does. -/
theorem redacted_withRole {body other : Probe α} (same : body.redacted = other.redacted) :
    (withRole (session.withPassword password) name (.runs body)).redacted =
      (withRole session name (.runs other)).redacted := by
  unfold withRole create createWith Session.post
  refine redacted_seq_congr (Session.redacted_call ..) fun created => ?_
  refine redacted_seq_congr rfl fun _ => redacted_seq_congr rfl fun _ => ?_
  show (body.ending >>= _).redacted = (other.ending >>= _).redacted
  refine redacted_seq_congr (redacted_ending_congr same) fun ending => ?_
  exact redacted_seq_congr (redacted_attempt_congr redacted_release) fun removal => rfl

theorem redacted_followed (steps : List Step) :
    (followed (session.withPassword password) name steps).redacted =
      (followed session name steps).redacted := by
  induction steps with
  | nil => rfl
  | cons step rest ih =>
    have call : (step.call (session.withPassword password) name).redacted =
        (step.call session name).redacted := by
      cases step <;> exact Session.redacted_call ..
    refine redacted_seq_congr call fun response => ?_
    cases step.fault? name response with
    | some failure => rfl
    | none => exact ih

/-- A life of a role with another password. -/
theorem Life.redacted_probe (life : Life) :
    (life.probe (session.withPassword password) name).redacted =
      (life.probe session name).redacted := by
  rw [life.probe_eq, life.probe_eq]
  exact redacted_withRole (redacted_followed life.steps)

theorem redacted_listRoles :
    (listRoles (session.withPassword password)).redacted = (listRoles session).redacted := by
  unfold listRoles checked list Session.get
  exact redacted_seq_congr (redacted_seq_congr (Session.redacted_call ..) fun response => rfl)
    fun response => rfl

theorem redacted_rejectInvalidEmail (email : String) :
    (rejectInvalidEmail (session.withPassword password) email).redacted =
      (rejectInvalidEmail session email).redacted := by
  unfold rejectInvalidEmail createWith Session.post
  exact redacted_seq_congr (Session.redacted_call ..) fun response => rfl

end Roles

/-! ### Ingestion -/

theorem Ingest.redacted_encryptedLogs (session : Session) (config : Config) (password : String)
    (content : Option Bytes) :
    (encryptedLogs (session.withPassword password) (config.withPassword password)
        content).redacted =
      (encryptedLogs session config content).redacted := by
  unfold encryptedLogs
  refine redacted_seq_congr rfl fun encryptor => redacted_seq_congr rfl fun batch => ?_
  have stream : (config.withPassword password).stream = config.stream := rfl
  unfold encrypted
  rw [stream]
  split
  · rfl
  · refine redacted_seq_congr rfl fun _ => redacted_seq_congr ?_ fun response => rfl
    exact redacted_seq_congr rfl fun _ => Session.redacted_call ..

/-! ### Configurations -/

namespace Config

variable {first second : Lookup}

/-- Lookups that agree on a name agree on the value of its setting. -/
theorem value?_of_elsewhere
    (elsewhere : ∀ name, name ≠ Setting.password.name → second name = first name)
    {setting : Setting} (other : setting ≠ .password) :
    value? second setting = value? first setting := by
  unfold value?
  rw [elsewhere _ (Setting.name_injective.ne other)]

/-- Another password is accepted where one is. -/
theorem credentialsOf_of_password {user : Option String} {password : String}
    {credentials : Option Credentials}
    (accepted : credentialsOf user (some password) = .ok credentials) (other : String) :
    credentialsOf user (some other) =
      .ok (credentials.map (Credentials.withPassword other)) := by
  cases user with
  | none => cases accepted
  | some user =>
    cases accepted
    rfl

/-- **Lookups that differ in the password only give configurations that do.** -/
theorem ofLookup_of_password {config : Config} {password other : String}
    (elsewhere : ∀ name, name ≠ Setting.password.name → second name = first name)
    (before : value? first .password = some password)
    (after : value? second .password = some other) (accepted : ofLookup first = .ok config) :
    ofLookup second = .ok (config.withPassword other) := by
  have same (setting : Setting) (notPassword : setting ≠ .password) :=
    value?_of_elsewhere elsewhere notPassword
  unfold ofLookup at accepted ⊢
  obtain ⟨baseUrl, url, accepted⟩ := exists_of_bind_eq_ok accepted
  obtain ⟨credentials, signIn, accepted⟩ := exists_of_bind_eq_ok accepted
  obtain ⟨variant, kind, accepted⟩ := exists_of_bind_eq_ok accepted
  obtain ⟨keyset, keys, accepted⟩ := exists_of_bind_eq_ok accepted
  cases accepted
  rw [before] at signIn
  simp only [after, same _ (by decide : Setting.baseUrl ≠ .password),
    same _ (by decide : Setting.user ≠ .password), same _ (by decide : Setting.org ≠ .password),
    same _ (by decide : Setting.stream ≠ .password),
    same _ (by decide : Setting.variant ≠ .password),
    same _ (by decide : Setting.keyset ≠ .password),
    same _ (by decide : Setting.fixture ≠ .password), url,
    credentialsOf_of_password signIn other, kind, keys]
  rfl

theorem shown_withPassword (config : Config) (password : String) :
    (config.withPassword password).credentials.map Credentials.shown =
      config.credentials.map Credentials.shown := by
  unfold withPassword
  rw [Option.map_map]
  rfl

end Config

/-! ### Scenarios -/

/-- What can be run with a configuration. -/
inductive Scenario where
  | listRoles
  | lifeOf (life : Roles.Life) (name : RoleName)
  | rejectInvalidEmail (email : String)
  | encryptedLogs (content : Option Bytes)

namespace Scenario

open Config (Lookup value? requiredBaseUrl credentialsOf ofLookup)

/-- What a scenario has to show for itself. -/
def Outcome : Scenario → Type
  | listRoles | rejectInvalidEmail _ => Http.Response
  | lifeOf _ _ => Unit
  | encryptedLogs _ => IngestReport

/-- A scenario in a session that is started for it. -/
def probe (config : Config) : (scenario : Scenario) → Probe scenario.Outcome
  | listRoles => do Roles.listRoles (← Session.start config)
  | lifeOf life name => do life.probe (← Session.start config) name
  | rejectInvalidEmail email => do Roles.rejectInvalidEmail (← Session.start config) email
  | encryptedLogs content => do Ingest.encryptedLogs (← Session.start config) config content

/-- **A scenario with another password differs in authorization values only.** -/
theorem redacted_probe (config : Config) (password : String) (scenario : Scenario) :
    (scenario.probe (config.withPassword password)).redacted =
      (scenario.probe config).redacted := by
  cases scenario with
  | listRoles => exact Session.redacted_start (fun session => Roles.redacted_listRoles) config
  | lifeOf life name => exact Session.redacted_start (fun session => life.redacted_probe) config
  | rejectInvalidEmail email =>
    exact Session.redacted_start (fun session => Roles.redacted_rejectInvalidEmail email) config
  | encryptedLogs content =>
    exact Session.redacted_start
      (fun session => Ingest.redacted_encryptedLogs session config password content) config

/-- **The password has a part in authorization values only.** Let two lookups differ in the password
only, which is set and not blank in both. If one of them gives a configuration then so does the
other, and the credentials of both are shown alike. Every scenario ends alike with both against
every script, down to the texts of its failures. It logs the same lines, leaves the same deliveries
over, and has the same exchanges but for the authorization values of their requests. -/
theorem course_without_password {first second : Lookup} {config : Config}
    {password other : String}
    (elsewhere : ∀ name, name ≠ Setting.password.name → second name = first name)
    (before : value? first .password = some password)
    (after : value? second .password = some other) (accepted : ofLookup first = .ok config) :
    ∃ twin, ofLookup second = .ok twin ∧
      twin.credentials.map Credentials.shown = config.credentials.map Credentials.shown ∧
      ∀ (scenario : Scenario) (script : Script),
        let twinRun := (scenario.probe twin).run Script.service script
        let run := (scenario.probe config).run Script.service script
        twinRun.ending = run.ending ∧ twinRun.log = run.log ∧
          twinRun.state.deliveries = run.state.deliveries ∧
          twinRun.exchanges.map Exchange.redacted = run.exchanges.map Exchange.redacted := by
  refine ⟨config.withPassword other, Config.ofLookup_of_password elsewhere before after accepted,
    Config.shown_withPassword config other, fun scenario script => ?_⟩
  exact Probe.run_script_of_redacted_eq (scenario.redacted_probe config other) script

/-- A lookup that sets a base URL, a user and a password. -/
def signedLookup (password : String) : Lookup := fun name =>
  if name = Setting.baseUrl.name then some "http://zo.test:5080/"
  else if name = Setting.user.name then some "root@zo.test"
  else if name = Setting.password.name then some password
  else none

/-- What is configured there. -/
def signedConfig (password : String) : Config where
  baseUrl := sampleSession.baseUrl
  org := "default"
  stream := "default"
  credentials := some ⟨"root@zo.test", password⟩
  variant := .tink
  keyset := .shared
  fixture := .bundled

theorem value?_signedLookup {password : String} (notBlank : Text.isAllBlank password = false) :
    value? (signedLookup password) .password = some password := by
  unfold value? signedLookup
  rw [if_neg (by decide), if_neg (by decide), if_pos rfl, Option.filter_some, notBlank]
  rfl

theorem ofLookup_signedLookup {password : String} (notBlank : Text.isAllBlank password = false) :
    ofLookup (signedLookup password) = .ok (signedConfig password) := by
  have url : requiredBaseUrl (value? (signedLookup password) .baseUrl) =
      .ok sampleSession.baseUrl := by
    have set : value? (signedLookup password) .baseUrl = some "http://zo.test:5080/" := by
      unfold value? signedLookup
      rw [if_pos rfl]
      decide +kernel
    rw [set, Config.requiredBaseUrl_of_baseUrlOf baseUrlOf_sampleSession]
  have user : value? (signedLookup password) .user = some "root@zo.test" := by
    unfold value? signedLookup
    rw [if_neg (by decide), if_pos rfl]
    decide +kernel
  have signIn : credentialsOf (value? (signedLookup password) .user)
      (value? (signedLookup password) .password) = .ok (some ⟨"root@zo.test", password⟩) := by
    rw [user, value?_signedLookup notBlank]
    rfl
  exact Config.ofLookup_of_unset url signIn rfl rfl

/-- The authorization values of the requests that list the roles. -/
def listingSignIns (config : Config) : List (List String) :=
  ((listRoles.probe config).run Script.service ⟨[], []⟩).requests.map (·.authorization)

/-- The roles are listed with one password and with another one, and that is seen only by the
authorization values. -/
theorem course_without_password_signed :
    ofLookup (signedLookup "p") = .ok (signedConfig "p") ∧
      ofLookup (signedLookup "other") = .ok (signedConfig "other") ∧
      listingSignIns (signedConfig "p") = [["Basic cm9vdEB6by50ZXN0OnA="]] ∧
      listingSignIns (signedConfig "other") = [["Basic cm9vdEB6by50ZXN0Om90aGVy"]] ∧
      ((listRoles.probe (signedConfig "other")).run Script.service
          ⟨[], []⟩).exchanges.map Exchange.redacted =
        ((listRoles.probe (signedConfig "p")).run Script.service
          ⟨[], []⟩).exchanges.map Exchange.redacted := by
  have own : Text.isAllBlank "p" = false := by decide +kernel
  have other : Text.isAllBlank "other" = false := by decide +kernel
  have elsewhere (name : String) (notPassword : name ≠ Setting.password.name) :
      signedLookup "other" name = signedLookup "p" name := by
    simp only [signedLookup, if_neg notPassword]
  obtain ⟨twin, also, -, alike⟩ := course_without_password elsewhere (value?_signedLookup own)
    (value?_signedLookup other) (ofLookup_signedLookup own)
  cases also.symm.trans (ofLookup_signedLookup other)
  exact ⟨ofLookup_signedLookup own, also, by decide +kernel, by decide +kernel,
    (alike .listRoles ⟨[], []⟩).2.2.2⟩

end Scenario

end LogProbe
