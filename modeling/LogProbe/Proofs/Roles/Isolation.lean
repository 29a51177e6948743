/-
**Lives of roles side by side.** Scenarios that run at once, each with a role of its own, do not
disturb each other on a service that keeps its roles apart: every request of a scenario, those of
its cleanup included, is about the role of the scenario.

* `Roles.roleOf?` — the role that a request is about.
* `Roles.Life.onlyAsks` — a scenario asks about its own role and about no other one.
* `Roles.lives_in_parallel` — every scenario has the course that it has alone.
* `RoleService.isLocal_sample` — the service that keeps a list of names keeps its roles apart.
-/

import LogProbe.Proofs.Probe.Interleaving
import LogProbe.Proofs.Roles.Sequence

namespace LogProbe

/-! ### Calls -/

/-- A call asks for nothing but its request. -/
theorem Session.onlyAsks_call {session : Session} {allowed : Http.Request → Prop}
    {method : Http.Method} {segments : List String} {query : List (String × String)}
    {value : Option Json.Value}
    (fine : ∀ request, session.requestFor? method segments query value = some request →
      allowed request) : (session.call method segments query value).OnlyAsks allowed := by
  unfold requestFor? at fine
  unfold call
  cases found : session.orgUrl? segments with
  | none => trivial
  | some url =>
    rw [found] at fine
    dsimp only
    cases built : session.request? method (url.withQuery query) (value.map Http.Content.json) with
    | none => trivial
    | some request =>
      simp only [Option.bind_eq_bind, Option.bind_some, built] at fine
      unfold execute
      by_cases http : request.url.isHttp = true
      · simp only [if_pos http] at fine ⊢
        refine ⟨fine request rfl, fun delivery => ?_⟩
        cases delivery <;> trivial
      · simp only [if_neg http]
        trivial

namespace Roles

variable {ι σ π : Type} {session : Session} {name : RoleName} {request : Http.Request}

/-- The role that a request is about: the one that its body names when it goes to the place of all
roles, and otherwise the one whose name stands behind `roles` in its path. -/
def roleOf? (session : Session) (request : Http.Request) : Option String :=
  match session.placeOf? request with
  | some ["roles"] => request.content.bind RoleCall.nameIn?
  | some ("roles" :: name :: _) => some name
  | _ => none

/-! ### What scenarios ask about -/

section

variable (org : Url.IsPlainSegment session.org)

include org

theorem roleOf?_create (creates : createRequest? session name = some request) :
    roleOf? session request = some name.text := by
  have content := (Session.parts_of_requestFor? creates).2.1
  have found := Session.placeOf?_of_requestFor? creates org (by simp [isPlainSegment_place])
  unfold roleOf?
  rw [found, place]
  simp only [content, Option.map_some, Option.bind_some, nameIn?_payload]

/-- A request to the place of a role, or behind it, is about that role. -/
theorem roleOf?_of_placeOf {method : Http.Method} (segments : List String)
    {query : List (String × String)} {value : Option Json.Value}
    (plain : ∀ segment ∈ placeOf name ++ segments, Url.IsPlainSegment segment)
    (sends : session.requestFor? method (placeOf name ++ segments) query value = some request) :
    roleOf? session request = some name.text := by
  have found := Session.placeOf?_of_requestFor? sends org plain
  unfold roleOf?
  rw [found]
  rfl

variable (plain : Url.IsPlainSegment name.text)

include plain

theorem Step.roleOf?_requestFor? (step : Step)
    (categories : ∀ category, step = .permissions category → Url.IsPlainSegment category)
    (sends : step.requestFor? session name = some request) :
    roleOf? session request = some name.text := by
  have own := isPlainSegment_placeOf plain
  cases step with
  | creation => exact roleOf?_create org sends
  | permissions category =>
    refine roleOf?_of_placeOf org ["permissions", category] ?_ sends
    simp [placeOf, isPlainSegment_place, plain, isPlainSegment_permissions, categories category rfl]
  | reading | naming | absence | update | rotation | removal =>
    exact roleOf?_of_placeOf org [] (by simpa using own) sends

theorem onlyAsks_release :
    (release session name).OnlyAsks (roleOf? session · = some name.text) := by
  have reads : (get session name).OnlyAsks (roleOf? session · = some name.text) :=
    Session.onlyAsks_call fun request => Step.roleOf?_requestFor? org plain .reading nofun
  have removes : (delete session name).OnlyAsks (roleOf? session · = some name.text) :=
    Session.onlyAsks_call fun request => Step.roleOf?_requestFor? org plain .removal nofun
  unfold release
  refine reads.seq fun current => ?_
  split
  · trivial
  · refine removes.seq fun deleted => ?_
    split
    · trivial
    · exact (Probe.OnlyAsks.demand _).seq fun _ => trivial

/-- **The scope of a role asks about that role only**, if the probe of its body does. -/
theorem onlyAsks_withRole {body : Probe Unit}
    (asks : body.OnlyAsks (roleOf? session · = some name.text)) :
    (withRole session name (.runs body)).OnlyAsks (roleOf? session · = some name.text) := by
  have creates : (create session name).OnlyAsks (roleOf? session · = some name.text) :=
    Session.onlyAsks_call fun request => Step.roleOf?_requestFor? org plain .creation nofun
  unfold withRole
  refine creates.seq fun created => (Probe.OnlyAsks.demand _).seq fun _ => ?_
  have logs (text : String) :
      (Probe.log .info text).OnlyAsks (roleOf? session · = some name.text) := trivial
  refine (logs _).seq fun _ => asks.ending.seq fun ending => ?_
  refine (onlyAsks_release org plain).attempt.seq fun removal => ?_
  cases ending <;> cases removal <;> trivial

theorem onlyAsks_followed {steps : List Step}
    (categories : ∀ category, .permissions category ∈ steps → Url.IsPlainSegment category) :
    (followed session name steps).OnlyAsks (roleOf? session · = some name.text) := by
  induction steps with
  | nil => trivial
  | cons step rest ih =>
    have call : (step.call session name).OnlyAsks (roleOf? session · = some name.text) := by
      have about (request : Http.Request) (sends : step.requestFor? session name = some request) :=
        Step.roleOf?_requestFor? org plain step
          (fun category same => categories category (same ▸ List.mem_cons_self)) sends
      cases step <;> exact Session.onlyAsks_call about
    refine call.seq fun response => ?_
    cases step.fault? name response with
    | some failure => trivial
    | none => exact ih fun category member => categories category (List.mem_cons_of_mem _ member)

/-- **A scenario asks about its own role only**, and so does its cleanup. -/
theorem Life.onlyAsks {life : Life}
    (categories : ∀ category, .permissions category ∈ life.steps → Url.IsPlainSegment category) :
    (life.probe session name).OnlyAsks (roleOf? session · = some name.text) := by
  rw [life.probe_eq]
  exact onlyAsks_withRole org plain (onlyAsks_followed org plain categories)

end

end Roles

/-! ### A service that keeps its roles apart -/

/-- The role of a call. -/
def RoleCall.role : RoleCall → String
  | create name | read name | permissions name _ | change name | remove name => name

/-- Whether the role of a call is there after it, by whether it was there before. -/
def RoleCall.leaves (present : Prop) : RoleCall → Prop
  | create _ => True
  | remove _ => False
  | read _ | permissions _ _ | change _ => present

namespace RoleService

variable {session : Session} {request : Http.Request} {call : RoleCall}

/-- A request that asks something of a role is about that role. -/
theorem roleOf?_of_ofRequest? (asked : RoleCall.ofRequest? session request = some call) :
    Roles.roleOf? session request = some call.role := by
  unfold RoleCall.ofRequest? at asked
  unfold Roles.roleOf?
  split at asked
  · rename_i found
    rw [found]
    split at asked
    · obtain ⟨name, named, rfl⟩ := Option.map_eq_some_iff.mp asked
      exact named
    · cases asked
  · rename_i name found
    rw [found]
    split at asked
    · cases asked
      rfl
    · split at asked
      · cases asked
        rfl
      · obtain ⟨-, same⟩ := Option.ite_none_right_eq_some.mp asked
        cases same
        rfl
  · rename_i name category found
    rw [found]
    obtain ⟨-, same⟩ := Option.ite_none_right_eq_some.mp asked
    cases same
    rfl
  · cases asked

variable (status : Http.Status) (body : Bytes) {names others : List String}

/-- What is answered to a call depends on whether its role is there. -/
theorem answer_congr (same : call.role ∈ names ↔ call.role ∈ others) :
    (answer status body names (some call)).1 = (answer status body others (some call)).1 := by
  by_cases present : call.role ∈ names
  · have also := same.mp present
    cases call <;> simp only [RoleCall.role] at present also <;> simp [answer, present, also]
  · have also := mt same.mpr present
    cases call <;> simp only [RoleCall.role] at present also <;> simp [answer, present, also]

/-- **What becomes of the roles by a call**: its own one is there by what the call does, and the
others are as they were. -/
theorem mem_answer (name : String) :
    name ∈ (answer status body names (some call)).2 ↔
      if name = call.role then call.leaves (name ∈ names) else name ∈ names := by
  cases call with
  | create role | remove role =>
    by_cases present : role ∈ names <;> by_cases own : name = role <;>
      simp [answer, RoleCall.role, RoleCall.leaves, present, own]
  | read role | permissions role category | change role =>
    by_cases present : role ∈ names <;> simp [answer, RoleCall.leaves, present]

/-- **The service that keeps a list of names keeps its roles apart.** -/
theorem isLocal_sample (session : Session) :
    (sample session status body).IsLocal (Roles.roleOf? session)
      fun names name => name ∈ names where
  answer {request name} about {names others} same := by
    unfold sample
    cases asked : RoleCall.ofRequest? session request with
    | none => rfl
    | some call =>
      cases (roleOf?_of_ofRequest? asked).symm.trans about
      exact answer_congr status body (iff_of_eq same)
  effect {request name} about {names others} same := by
    unfold sample
    cases asked : RoleCall.ofRequest? session request with
    | none => exact same
    | some call =>
      cases (roleOf?_of_ofRequest? asked).symm.trans about
      have leaves := congrArg (RoleCall.leaves · call) same
      refine propext ?_
      rw [mem_answer, mem_answer, if_pos rfl, if_pos rfl]
      exact iff_of_eq leaves
  frame {request name} about {other} different names := by
    unfold sample
    cases asked : RoleCall.ofRequest? session request with
    | none => rfl
    | some call =>
      cases (roleOf?_of_ofRequest? asked).symm.trans about
      refine propext ?_
      rw [mem_answer, if_neg different]

end RoleService

namespace Roles

variable {ι σ π : Type}

/-! ### Scenarios side by side -/

/-- Scenarios that run at once in one organisation, each with its own role, and each signed in as
anyone. -/
structure Parallel (ι : Type) where
  session : Session
  credentials : ι → Option Credentials
  lives : ι → Life
  names : ι → RoleName

namespace Parallel

variable (runs : Parallel ι)

/-- The session of one of the scenarios. -/
def sessionOf (index : ι) : Session :=
  { runs.session with credentials := runs.credentials index }

/-- The probe of one of the scenarios. -/
def probe (index : ι) : Probe Unit :=
  (runs.lives index).probe (runs.sessionOf index) (runs.names index)

/-- The scenarios before any of them has begun. -/
def start (state : σ) : Crowd ι σ Unit := ⟨fun index => .start (runs.probe index), state⟩

/-- The organisation, the names and the categories stand for themselves in a path, and no name is
used twice. -/
structure IsProper : Prop where
  org : Url.IsPlainSegment runs.session.org
  name (index : ι) : Url.IsPlainSegment (runs.names index).text
  category (index : ι) (kind : String) (reads : .permissions kind ∈ (runs.lives index).steps) :
    Url.IsPlainSegment kind
  distinct : Function.Injective runs.names

end Parallel

/-- **Scenarios side by side do not disturb each other.** Let a service keep its roles apart: what
it answers to a request about a role, and what becomes of the role, depend on the request and on the
state of that role alone. Let any number of scenarios run at once, with roles of different names
that stand for themselves in a path. From any state and on any schedule, each of them is under way
in the course that it has alone. It has come to the end of that course when it has ended, and it has
ended after as many turns as that course takes. It never asks about the role of another one, before
its cleanup or in it. -/
theorem lives_in_parallel [DecidableEq ι] {runs : Parallel ι} (proper : runs.IsProper)
    {service : Service σ} {part : σ → String → π}
    (apart : service.IsLocal (roleOf? runs.session) part) (state : σ) (schedule : List ι)
    (index : ι) :
    let client := ((runs.start state).course service schedule).clients index
    let alone := (runs.probe index).run service state
    client.exchanges <+: alone.exchanges ∧ client.log <+: alone.log ∧
      (∀ ending, client.rest = .ofEnding ending → client = .finished alone) ∧
      (Client.turnsOf alone ≤ schedule.count index → client = .finished alone) ∧
      ∀ exchange ∈ client.exchanges,
        roleOf? runs.session exchange.1 = some (runs.names index).text ∧
        ∀ other, other ≠ index →
          roleOf? runs.session exchange.1 ≠ some (runs.names other).text := by
  intro client alone
  have asks (index : ι) :
      (runs.probe index).OnlyAsks (roleOf? runs.session · = some (runs.names index).text) := by
    have org : Url.IsPlainSegment (runs.sessionOf index).org := proper.org
    -- Who is signed in has no part in what a request is about.
    exact Life.onlyAsks org (proper.name index) (proper.category index)
  have distinct : Function.Injective fun index => (runs.names index).text :=
    fun first second same => proper.distinct (RoleName.mk.injEq _ _ ▸ same)
  have lone : client =
      ((Client.turn service)^[schedule.count index] (.start (runs.probe index), state)).1 := by
    show ((runs.start state).course service schedule).clients index = _
    exact Crowd.clients_course apart distinct asks schedule index rfl
  obtain ⟨exchanges, log⟩ :=
    Client.prefix_course service (runs.probe index) state (schedule.count index)
  rw [← lone] at exchanges log
  refine ⟨exchanges, log, ?_, ?_, ?_⟩
  · intro ending ended
    rw [lone] at ended ⊢
    exact Client.eq_finished_of_ofEnding service (runs.probe index) state ended
  · intro enough
    rw [lone, Client.iterate_turn_start service (runs.probe index) state enough]
  · intro exchange member
    have own := (asks index).exchanges service state exchange (exchanges.subset member)
    refine ⟨own, fun other different same => different ?_⟩
    exact distinct (Option.some.inj (same.symm.trans own))

/-- Two scenarios, for roles whose names differ in how they write a slash. -/
def sampleParallel : Parallel Bool where
  session := sampleSession
  credentials _ := none
  lives second := if second then .fullLifecycle else .createPermissionsDelete "logs"
  names second := if second then ⟨"a/b"⟩ else ⟨"a%2Fb"⟩

theorem isProper_sampleParallel : sampleParallel.IsProper where
  org := Url.isPlainSegment_of_all (by decide) (by decide) (by decide)
  name index := by
    cases index <;> exact Url.isPlainSegment_of_all (by decide) (by decide) (by decide)
  category index kind reads := by
    cases index with
    | false =>
      simp only [sampleParallel, Bool.false_eq_true, if_false, Life.steps, List.mem_cons,
        Step.permissions.injEq, List.not_mem_nil, or_false, reduceCtorEq] at reads
      rw [reads]
      exact Url.isPlainSegment_of_all (by decide) (by decide) (by decide)
    | true => simp [sampleParallel, Life.steps] at reads
  distinct first second same := by
    revert first second same
    decide

/-- When they take turns both of them end as they do alone. -/
theorem lives_in_parallel_sample :
    let service := RoleService.sample sampleSession .notFound []
    let schedule := (List.replicate 16 [false, true]).flatten
    let crowd := (sampleParallel.start []).course service schedule
    crowd.clients false = .finished ((sampleParallel.probe false).run service []) ∧
      crowd.clients true = .finished ((sampleParallel.probe true).run service []) := by
  intro service schedule crowd
  have apart : service.IsLocal (roleOf? sampleParallel.session) _ :=
    RoleService.isLocal_sample .notFound [] sampleSession
  have ends (index : Bool) (enough : Client.turnsOf ((sampleParallel.probe index).run service []) ≤
      schedule.count index) :
      crowd.clients index = .finished ((sampleParallel.probe index).run service []) :=
    (lives_in_parallel isProper_sampleParallel apart [] schedule index).2.2.2.1 enough
  exact ⟨ends false (by decide +kernel), ends true (by decide +kernel)⟩

end Roles

end LogProbe
