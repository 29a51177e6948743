/-
**Scenarios restore the roles.** Against a service that conforms, a scope takes away its role and
nothing else, whatever the probe of its body does and whatever the service answers to a reading of a
role that is missing. So every scenario leaves the roles as they were.

* `Roles.Turns` — a probe that ends with a value turns one set of roles into another.
* `Roles.release_of_conforms` — a cleanup succeeds and takes the role away.
* `Roles.withRole_of_conforms` — a scope whose body starts ends as its body does, and takes the role
  away.
* `Roles.lifecycle_of_conforms` — the body of the full lifecycle hangs on its last reading alone.
* `Roles.scenarios_restore` — the five scenarios, and scopes in general.
-/

import LogProbe.Proofs.Config.BaseUrl
import LogProbe.Proofs.Roles.Service
import LogProbe.Roles.Scenario
import Mathlib.Order.BooleanAlgebra.Set

namespace LogProbe.Roles

open RoleService (Conforms)

variable {σ α β : Type} {session : Session} {name : RoleName} {service : Service σ}
  {roles : σ → Set String} {state : σ}

/-! ### The cleanup -/

/-- An object of some name is not absent. -/
theorem readsBack_of_names {read : Http.Request} {delivery : Delivery}
    (named : delivery.Names name.text) : readsBack read delivery = true := by
  obtain ⟨body, fields, rfl, parsed, found⟩ := named
  have some : fields.isEmpty = false := by
    cases fields with
    | nil => cases found
    | cons field rest => rfl
  have success : Http.Status.ok.isSuccess = true := by decide
  simp only [readsBack, Http.Response.isAbsent, Http.Response.json?, success, parsed, some,
    if_true, Bool.not_false]

variable (conforms : Conforms session service roles) (online : session.IsOnline)
  (org : Url.IsPlainSegment session.org) (plain : Url.IsPlainSegment name.text)

include conforms online org plain

/-- **A cleanup succeeds and takes the role away**, if it is still there. -/
theorem release_of_conforms (state : σ) :
    ((release session name).run service state).ending = .value () ∧
      roles ((release session name).run service state).state = roles state \ {name.text} := by
  obtain ⟨-, read, removal, -, reads, removes⟩ := exists_requests online name
  have asksRead := ofRequest?_read org plain reads
  have asksRemoval := ofRequest?_removal org plain removes
  rcases answered : service state read with ⟨delivery, next⟩
  rcases settled : service next removal with ⟨outcome, final⟩
  by_cases present : name.text ∈ roles state
  · obtain ⟨named, kept⟩ := conforms.read_present asksRead present
    rw [answered] at named kept
    have still : name.text ∈ roles next := by rw [kept]; exact present
    obtain ⟨⟨text, fine⟩, taken⟩ := conforms.remove_present asksRemoval still
    rw [settled] at fine taken
    rw [run_release_of_present reads removes answered (readsBack_of_names named) settled]
    cases fine
    exact ⟨rfl, by rw [taken, kept]⟩
  · obtain ⟨⟨status, text, whole⟩, kept⟩ := conforms.read_missing asksRead present
    rw [answered] at whole kept
    cases whole
    have same : roles state \ {name.text} = roles state := Set.sdiff_singleton_eq_self present
    cases back : readsBack read (.replied status text) with
    | false =>
      rw [run_release_of_gone reads answered back, same]
      exact ⟨rfl, kept⟩
    | true =>
      have still : name.text ∉ roles next := by rw [kept]; exact present
      obtain ⟨⟨body, missing⟩, left⟩ := conforms.remove_missing asksRemoval still
      rw [settled] at missing left
      rw [run_release_of_present reads removes answered back settled, same]
      cases missing
      exact ⟨rfl, by rw [left, kept]⟩

/-! ### Scopes -/

/-- **A scope ends as its body does, and takes the role away**, whatever the body did, once its call
gave a probe. -/
theorem withRole_of_conforms {create : Http.Request}
    (creates : createRequest? session name = some create) (fresh : name.text ∉ roles state)
    (body : Probe α) :
    let run := (withRole session name (.runs body)).run service state
    let inner := body.run service (service state create).2
    roles (service state create).2 = insert name.text (roles state) ∧
      run.ending = inner.ending ∧ roles run.state = roles inner.state \ {name.text} ∧
      ∃ opening cleanup, run.exchanges = opening :: (inner.exchanges ++ cleanup) := by
  intro run inner
  obtain ⟨-, read, removal, -, reads, removes⟩ := exists_requests online name
  rcases answered : service state create with ⟨delivery, next⟩
  obtain ⟨⟨text, fine⟩, added⟩ := conforms.create_missing (ofRequest?_create org creates) fresh
  rw [answered] at fine added
  cases fine
  obtain ⟨cleanup, after⟩ : ∃ cleanup, (release session name).run service inner.state = cleanup :=
    ⟨_, rfl⟩
  have inside : body.run service next = inner := by
    show _ = body.run service (service state create).2
    rw [answered]
  obtain ⟨succeeded, taken⟩ := release_of_conforms conforms online org plain inner.state
  rw [after] at succeeded taken
  have course : run = _ := run_withRole_of_created creates reads removes answered inside after
  rw [course, succeeded]
  exact ⟨added, (concluded_value name inner.ending ()).1, taken, _, _, rfl⟩

omit conforms online org plain

/-! ### Steps of a body -/

/-- A probe turns one set of roles into another if it ends with a value wherever it starts with the
one, and leaves the other. -/
def Turns (service : Service σ) (roles : σ → Set String) (before after : Set String)
    (probe : Probe α) : Prop :=
  ∀ state, roles state = before →
    (∃ value, (probe.run service state).ending = .value value) ∧
      roles (probe.run service state).state = after

theorem turns_pure (value : α) (some : Set String) : Turns service roles some some (pure value) :=
  fun _ starts => ⟨⟨value, rfl⟩, starts⟩

/-- One turn after another. -/
theorem turns_seq {before middle after : Set String} {probe : Probe α} {next : α → Probe β}
    (first : Turns service roles before middle probe)
    (second : ∀ value, Turns service roles middle after (next value)) :
    Turns service roles before after (probe >>= next) := by
  intro state starts
  obtain ⟨⟨value, ends⟩, reaches⟩ := first state starts
  obtain ⟨endsAgain, reachesAgain⟩ := second value _ reaches
  rw [Probe.run_seq, Run.andThen, ends]
  exact ⟨endsAgain, reachesAgain⟩

/-- A call that is answered with status 200 passes its check. -/
theorem run_checked {method : Http.Method} {segments : List String}
    {query : List (String × String)} {value : Option Json.Value} {request : Http.Request}
    (sends : session.requestFor? method segments query value = some request) {body : Bytes}
    {next : σ} (answered : service state request = (.replied .ok body, next)) :
    (checked (session.call method segments query value)).run service state =
      ⟨.value ⟨request.method, request.url, .ok, body⟩, [(request, .replied .ok body)],
        Session.receivedLog request (.replied .ok body), next⟩ := by
  unfold checked
  rw [Probe.run_seq, Session.run_call sends, answered]
  simp only [Session.received, Run.andThen_value, Probe.run_demand, expectOk_ok, Probe.demanded,
    List.append_nil]

/-- A checked call turns the roles as the service does. -/
theorem turns_checked {method : Http.Method} {segments : List String}
    {query : List (String × String)} {value : Option Json.Value} {request : Http.Request}
    (sends : session.requestFor? method segments query value = some request)
    {before after : Set String}
    (works : ∀ state, roles state = before →
      (service state request).1.IsOk ∧ roles (service state request).2 = after) :
    Turns service roles before after (checked (session.call method segments query value)) := by
  intro state starts
  obtain ⟨⟨body, fine⟩, reaches⟩ := works state starts
  have answered : service state request = (.replied .ok body, (service state request).2) := by
    rw [← fine]
  rw [run_checked sends answered]
  exact ⟨⟨_, rfl⟩, reaches⟩

include conforms online org plain

theorem turns_permissions {category : String} (plainCategory : Url.IsPlainSegment category)
    {before : Set String} (present : name.text ∈ before) :
    Turns service roles before before (checked (permissions session name category)) := by
  obtain ⟨request, asks, -⟩ :=
    Session.exists_requestFor? online .get (placeOf name ++ ["permissions", category]) [] none
  refine turns_checked asks ?_
  rintro state rfl
  exact conforms.permissions_present (ofRequest?_permissions org plain plainCategory asks) present

theorem turns_get {before : Set String} (present : name.text ∈ before) :
    Turns service roles before before (checked (get session name)) := by
  obtain ⟨-, request, -, -, reads, -⟩ := exists_requests online name
  refine turns_checked reads ?_
  rintro state rfl
  obtain ⟨⟨body, fields, fine, -⟩, kept⟩ :=
    conforms.read_present (ofRequest?_read org plain reads) present
  exact ⟨⟨body, fine⟩, kept⟩

/-- Both the update of a role and its new token are changes of it. -/
theorem turns_change {before : Set String} (present : name.text ∈ before)
    (query : List (String × String)) :
    Turns service roles before before
      (checked (session.put (placeOf name) query (payload name))) := by
  obtain ⟨request, changes, -⟩ :=
    Session.exists_requestFor? online .put (placeOf name) query (some (payload name))
  refine turns_checked changes ?_
  rintro state rfl
  exact conforms.change_present (ofRequest?_change org plain changes) present

theorem turns_delete {before : Set String} (present : name.text ∈ before) :
    Turns service roles before (before \ {name.text}) (checked (delete session name)) := by
  obtain ⟨-, -, request, -, -, removes⟩ := exists_requests online name
  refine turns_checked removes ?_
  rintro state rfl
  exact conforms.remove_present (ofRequest?_removal org plain removes) present

/-- **A scope whose body takes its role away restores the roles.** -/
theorem turns_withRole {before : Set String} (fresh : name.text ∉ before) {body : Probe α}
    (turns : Turns service roles (insert name.text before) (insert name.text before \ {name.text})
      body) :
    Turns service roles before before (withRole session name (.runs body)) := by
  rintro state rfl
  obtain ⟨create, -, -, creates, -, -⟩ := exists_requests online name
  obtain ⟨added, ends, taken, -⟩ :=
    withRole_of_conforms conforms online org plain creates fresh body
  obtain ⟨value, reaches⟩ := turns _ added
  rw [ends, taken, reaches, Set.insert_sdiff_self_of_notMem fresh]
  exact ⟨value, Set.sdiff_singleton_eq_self fresh⟩

omit conforms online org plain

/-! ### The full lifecycle -/

/-- What the full lifecycle does with its role. -/
def lifecycle (session : Session) (name : RoleName) : Probe Unit := do
  let role ← checked (get session name)
  demandNamed name role
  let _ ← checked (update session name)
  let _ ← checked (delete session name)
  let gone ← get session name
  let _ ← Probe.demand gone.expectAbsent
  pure ()

theorem fullLifecycle_eq (session : Session) (name : RoleName) :
    fullLifecycle session name = withRole session name (.runs (lifecycle session name)) := rfl

/-- How the reading of a role that should be gone ends. -/
def goneEnding (response : Http.Response) : Ending Unit :=
  if response.isAbsent then .value () else .failed (.mismatch (response.mismatch .absent))

theorem run_demand_absent (response : Http.Response) (service : Service σ) (state : σ) :
    (do
      let _ ← Probe.demand response.expectAbsent
      pure () : Probe Unit).run service state = ⟨goneEnding response, [], [], state⟩ := by
  unfold goneEnding Http.Response.expectAbsent
  rw [Probe.run_seq, Probe.run_demand]
  split
  · rfl
  · rfl

/-- An object of the name of a role names the role. -/
theorem demandNamed_of_names {response : Http.Response} {fields : List (String × Json.Value)}
    (parsed : response.json? = some (.object fields))
    (found : fields.lookup "name" = some (.string name.text)) :
    demandNamed name response = pure () := by
  have named : (Json.Value.object fields).namesRole name.text = true := by
    rw [Json.Value.namesRole, found]
    simp
  unfold demandNamed
  rw [parsed]
  exact if_pos named

/-- The course of the body of the full lifecycle where all but its last reading succeeds. -/
theorem run_lifecycle {read change removal : Http.Request}
    (reads : readRequest? session name = some read)
    (changes : changeRequest? session name [] = some change)
    (removes : removalRequest? session name = some removal) {second third fourth fifth : σ}
    {body changedBody removedBody text : Bytes} {status : Http.Status}
    {fields : List (String × Json.Value)}
    (answered : service state read = (.replied .ok body, second))
    (parsed : Json.Value.ofBytes? body = some (.object fields))
    (found : fields.lookup "name" = some (.string name.text))
    (changed : service second change = (.replied .ok changedBody, third))
    (removed : service third removal = (.replied .ok removedBody, fourth))
    (final : service fourth read = (.replied status text, fifth)) :
    (lifecycle session name).run service state =
      ⟨goneEnding ⟨read.method, read.url, status, text⟩,
        [(read, .replied .ok body), (change, .replied .ok changedBody),
          (removal, .replied .ok removedBody), (read, .replied status text)],
        Session.receivedLog read (.replied .ok body) ++
          Session.receivedLog change (.replied .ok changedBody) ++
          Session.receivedLog removal (.replied .ok removedBody) ++
          Session.receivedLog read (.replied status text),
        fifth⟩ := by
  have named : demandNamed name ⟨read.method, read.url, .ok, body⟩ = pure () :=
    demandNamed_of_names parsed found
  have last := Session.run_call reads service fourth
  rw [final] at last
  unfold lifecycle get update delete Session.get Session.put Session.delete
  rw [Probe.run_seq, run_checked reads answered, Run.andThen_value, named, Probe.run_seq,
    Probe.run_pure, Run.andThen_value, Probe.run_seq, run_checked changes changed,
    Run.andThen_value, Probe.run_seq, run_checked removes removed, Run.andThen_value,
    Probe.run_seq, last, Session.received, Run.andThen_value, run_demand_absent]
  rfl

include conforms online org plain

/-- **The body of the full lifecycle hangs on its last reading alone**: all that comes before it
succeeds, and takes the role away. -/
theorem lifecycle_of_conforms {read : Http.Request}
    (reads : readRequest? session name = some read) (present : name.text ∈ roles state) :
    let inner := (lifecycle session name).run service state
    ∃ first second third status text,
      inner.exchanges = [first, second, third, (read, .replied status text)] ∧
        inner.ending = goneEnding ⟨read.method, read.url, status, text⟩ ∧
        roles inner.state = roles state \ {name.text} := by
  obtain ⟨change, changes, -⟩ :=
    Session.exists_requestFor? online .put (placeOf name) [] (some (payload name))
  obtain ⟨-, -, removal, -, -, removes⟩ := exists_requests online name
  have asksRead := ofRequest?_read org plain reads
  -- The role is read by its name …
  rcases answered : service state read with ⟨reading, second⟩
  obtain ⟨⟨body, fields, fine, parsed, found⟩, kept⟩ := conforms.read_present asksRead present
  rw [answered] at fine kept
  cases fine
  have still : name.text ∈ roles second := by rw [kept]; exact present
  -- … changed …
  rcases changed : service second change with ⟨delivery, third⟩
  obtain ⟨⟨changedBody, fine⟩, keptAgain⟩ :=
    conforms.change_present (ofRequest?_change org plain changes) still
  rw [changed] at fine keptAgain
  cases fine
  have stillAgain : name.text ∈ roles third := by rw [keptAgain]; exact still
  -- … removed …
  rcases removed : service third removal with ⟨outcome, fourth⟩
  obtain ⟨⟨removedBody, fine⟩, taken⟩ :=
    conforms.remove_present (ofRequest?_removal org plain removes) stillAgain
  rw [removed] at fine taken
  cases fine
  have gone : name.text ∉ roles fourth := by rw [taken]; simp
  -- … and read again, which is up to the service.
  rcases final : service fourth read with ⟨last, fifth⟩
  obtain ⟨⟨status, text, whole⟩, left⟩ := conforms.read_missing asksRead gone
  rw [final] at whole left
  cases whole
  have course := run_lifecycle reads changes removes answered parsed found changed removed final
  intro inner
  rw [show inner = _ from course]
  exact ⟨_, _, _, status, text, rfl, rfl, by rw [left, taken, keptAgain, kept]⟩

/-! ### The scenarios -/

section Scenarios

variable {category : String} (plainCategory : Url.IsPlainSegment category) {before : Set String}
  (fresh : name.text ∉ before)

include fresh

theorem turns_createDelete : Turns service roles before before (createDelete session name) := by
  have present : name.text ∈ insert name.text before := Set.mem_insert _ _
  refine turns_withRole conforms online org plain fresh ?_
  refine turns_seq (turns_delete conforms online org plain present) fun _ => ?_
  exact turns_pure () _

include plainCategory

theorem turns_createPermissionsDelete :
    Turns service roles before before (createPermissionsDelete session name category) := by
  have present : name.text ∈ insert name.text before := Set.mem_insert _ _
  refine turns_withRole conforms online org plain fresh ?_
  refine turns_seq (turns_permissions conforms online org plain plainCategory present) fun _ => ?_
  refine turns_seq (turns_delete conforms online org plain present) fun _ => ?_
  exact turns_pure () _

theorem turns_createPermissionsUpdateDelete :
    Turns service roles before before (createPermissionsUpdateDelete session name category) := by
  have present : name.text ∈ insert name.text before := Set.mem_insert _ _
  refine turns_withRole conforms online org plain fresh ?_
  refine turns_seq (turns_permissions conforms online org plain plainCategory present) fun _ => ?_
  refine turns_seq (turns_change conforms online org plain present []) fun _ => ?_
  refine turns_seq (turns_delete conforms online org plain present) fun _ => ?_
  exact turns_pure () _

omit plainCategory in
theorem turns_createGetRotateDelete :
    Turns service roles before before (createGetRotateDelete session name) := by
  have present : name.text ∈ insert name.text before := Set.mem_insert _ _
  refine turns_withRole conforms online org plain fresh ?_
  refine turns_seq (turns_get conforms online org plain present) fun _ => ?_
  refine turns_seq (turns_change conforms online org plain present [("rotateToken", "true")])
    fun _ => ?_
  refine turns_seq (turns_delete conforms online org plain present) fun _ => ?_
  exact turns_pure () _

end Scenarios

/-- The full lifecycle restores the roles and succeeds exactly if its last reading, the fifth of its
requests, finds nothing. -/
theorem fullLifecycle_of_conforms (fresh : name.text ∉ roles state) :
    let run := (fullLifecycle session name).run service state
    ∃ read status text, readRequest? session name = some read ∧
      run.exchanges[4]? = some (read, .replied status text) ∧
      run.ending = goneEnding ⟨read.method, read.url, status, text⟩ ∧
      roles run.state = roles state := by
  intro run
  obtain ⟨create, read, -, creates, reads, -⟩ := exists_requests online name
  obtain ⟨added, ends, taken, opening, cleanup, exchanged⟩ :=
    withRole_of_conforms conforms online org plain creates fresh (lifecycle session name)
  have present : name.text ∈ roles (service state create).2 := by
    rw [added]
    exact Set.mem_insert _ _
  obtain ⟨first, second, third, status, text, asked, endsInside, reaches⟩ :=
    lifecycle_of_conforms conforms online org plain reads present
  have framed :
      run = (withRole session name (.runs (lifecycle session name))).run service state := by
    show (fullLifecycle session name).run service state = _
    rw [fullLifecycle_eq]
  refine ⟨read, status, text, reads, ?_, ?_, ?_⟩
  · rw [framed, exchanged, asked]
    rfl
  · rw [framed, ends, endsInside]
  · rw [framed, taken, reaches, added, Set.insert_sdiff_self_of_notMem fresh,
      Set.sdiff_singleton_eq_self fresh]

omit conforms online org plain

theorem goneEnding_value_iff (response : Http.Response) :
    goneEnding response = .value () ↔ response.isAbsent = true := by
  unfold goneEnding
  split
  · rename_i absent
    exact ⟨fun _ => absent, fun _ => rfl⟩
  · rename_i found
    exact ⟨nofun, fun absent => absurd absent found⟩

/-- A probe succeeds and leaves the roles as they were. -/
def Restores (service : Service σ) (roles : σ → Set String) (state : σ) (probe : Probe Unit) :
    Prop :=
  (probe.run service state).ending = .value () ∧
    roles (probe.run service state).state = roles state

theorem restores_of_turns {probe : Probe Unit}
    (turns : Turns service roles (roles state) (roles state) probe) :
    Restores service roles state probe := by
  obtain ⟨⟨_, ends⟩, reaches⟩ := turns state rfl
  exact ⟨ends, reaches⟩

/-- **Every scenario restores the roles.** Against a service that conforms, with a name that is not
taken, four scenarios succeed, and the full lifecycle does exactly if the reading after its removal
finds nothing. Any scope whose body starts ends as its body does and takes away its role and nothing
else, so that it restores the roles too if its body leaves the other ones alone. -/
theorem scenarios_restore {text : String} (accepted : Config.baseUrlOf text = .ok session.baseUrl)
    (org : Url.IsPlainSegment session.org)
    (conforms : RoleService.Conforms session service roles)
    (plain : Url.IsPlainSegment name.text) {category : String}
    (plainCategory : Url.IsPlainSegment category) (fresh : name.text ∉ roles state) :
    Restores service roles state (createDelete session name) ∧
    Restores service roles state (createPermissionsDelete session name category) ∧
    Restores service roles state (createPermissionsUpdateDelete session name category) ∧
    Restores service roles state (createGetRotateDelete session name) ∧
    (let run := (fullLifecycle session name).run service state
      ∃ read status body, readRequest? session name = some read ∧
        run.exchanges[4]? = some (read, .replied status body) ∧
        roles run.state = roles state ∧
        (run.ending = .value () ↔
          Http.Response.isAbsent ⟨read.method, read.url, status, body⟩ = true)) ∧
    ∀ (α : Type) (body : Probe α), ∃ create, createRequest? session name = some create ∧
      let inner := body.run service (service state create).2
      let run := (withRole session name (.runs body)).run service state
      run.ending = inner.ending ∧ roles run.state = roles inner.state \ {name.text} ∧
        ((∀ other ≠ name.text, other ∈ roles inner.state ↔ other ∈ roles state) →
          roles run.state = roles state) := by
  have online : session.IsOnline := Config.isOnline_of_baseUrlOf accepted
  refine ⟨restores_of_turns (turns_createDelete conforms online org plain fresh),
    restores_of_turns
      (turns_createPermissionsDelete conforms online org plain plainCategory fresh),
    restores_of_turns
      (turns_createPermissionsUpdateDelete conforms online org plain plainCategory fresh),
    restores_of_turns (turns_createGetRotateDelete conforms online org plain fresh), ?_, ?_⟩
  · obtain ⟨read, status, body, reads, last, ends, restored⟩ :=
      fullLifecycle_of_conforms conforms online org plain fresh
    refine ⟨read, status, body, reads, last, restored, ?_⟩
    rw [ends]
    exact goneEnding_value_iff _
  · intro α body
    obtain ⟨create, -, -, creates, -, -⟩ := exists_requests online name
    obtain ⟨-, ends, taken, -⟩ :=
      withRole_of_conforms conforms online org plain creates fresh body
    refine ⟨create, creates, ends, taken, fun alone => ?_⟩
    rw [taken]
    ext other
    by_cases own : other = name.text
    · simp [own, fresh]
    · simp [own, alone other own]

/-- The scenarios against a service that keeps another role and answers 404 to the reading of a role
that is missing. -/
theorem scenarios_restore_sample :
    let service := RoleService.sample sampleSession .notFound []
    Restores service RoleService.listed ["admin"] (createDelete sampleSession ⟨"role_1"⟩) ∧
    Restores service RoleService.listed ["admin"]
      (createPermissionsDelete sampleSession ⟨"role_1"⟩ "logs") ∧
    Restores service RoleService.listed ["admin"]
      (createPermissionsUpdateDelete sampleSession ⟨"role_1"⟩ "logs") ∧
    Restores service RoleService.listed ["admin"]
      (createGetRotateDelete sampleSession ⟨"role_1"⟩) := by
  intro service
  have accepted : Config.baseUrlOf "http://zo.test:5080/" = .ok sampleSession.baseUrl := by
    decide +kernel
  have org : Url.IsPlainSegment sampleSession.org :=
    Url.isPlainSegment_of_all (by decide) (by decide) (by decide)
  have plain : Url.IsPlainSegment (RoleName.mk "role_1").text :=
    Url.isPlainSegment_of_all (by decide) (by decide) (by decide)
  have logs : Url.IsPlainSegment "logs" :=
    Url.isPlainSegment_of_all (by decide) (by decide) (by decide)
  have fresh : (RoleName.mk "role_1").text ∉ RoleService.listed ["admin"] := by simp
  obtain ⟨first, second, third, fourth, -⟩ := scenarios_restore accepted org
    (RoleService.conforms_sample sampleSession .notFound []) plain logs fresh
  exact ⟨first, second, third, fourth⟩

end LogProbe.Roles
