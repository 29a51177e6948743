/-
**Courses of scoped roles.** What a service delivers for three requests — the one that adds the
role, the one that reads it back and the one that removes it — settles how a scope goes.

* `Roles.exists_requests` — the three requests go out for a session that is online.
* `Roles.run_release_of_gone`, `Roles.run_release_of_present` — the removal of a role, which asks a
  second time only if the role reads back.
* `Roles.Body.run` — the course of a body, whose call may panic.
* `Roles.run_withRole_of_created`, `Roles.run_withRole_of_panics`, `Roles.run_withRole_of_refused` —
  the scope of a role. After a creation with status 200 its course is the creation, the course of
  the body and the removal, one after the other, unless the call of the body panics; otherwise it is
  the creation alone.
* `Roles.release_ne_panicked` — a removal has no panics, so that those of a scope are the body's.
-/

import LogProbe.Proofs.Session.Call
import LogProbe.Roles.Scope

namespace LogProbe.Roles

variable {σ α : Type} {session : Session} {name : RoleName}

/-! ### Bodies -/

namespace Body

/-- The call of a body gives a probe. -/
def Starts (body : Body α) : Prop := ∃ probe, body = .runs probe

/-- The course of a body: of its call and of the probe that this gives. -/
def run (service : Service σ) (body : Body α) (state : σ) : Run σ α :=
  (body.call.bind id).run service state

@[simp] theorem run_runs (service : Service σ) (probe : Probe α) (state : σ) :
    (runs probe).run service state = probe.run service state := rfl

/-- The course of a call that panics is what it logs. -/
theorem run_call_panics (service : Service σ) (log : List LogLine) (payload : String) (state : σ) :
    (panics log payload : Body α).call.run service state =
      ⟨.panicked payload, [], log, state⟩ := by
  induction log with
  | nil => rfl
  | cons line rest ih =>
    show Probe.run service (.logged line (panics rest payload : Body α).call) state = _
    simp only [Probe.run, ih]

@[simp] theorem run_panics (service : Service σ) (log : List LogLine) (payload : String)
    (state : σ) :
    (panics log payload : Body α).run service state = ⟨.panicked payload, [], log, state⟩ := by
  unfold run
  rw [Probe.run_bind, run_call_panics]
  rfl

/-- A body starts, or its call panics. -/
theorem starts_or_panics (body : Body α) :
    body.Starts ∨ ∃ log payload, body = .panics log payload := by
  cases body with
  | runs probe => exact .inl ⟨probe, rfl⟩
  | panics log payload => exact .inr ⟨log, payload, rfl⟩

theorem starts_runs (probe : Probe α) : (runs probe).Starts := ⟨probe, rfl⟩

theorem not_starts_panics (log : List LogLine) (payload : String) :
    ¬ (panics log payload : Body α).Starts :=
  fun ⟨_, same⟩ => nomatch same

end Body

/-! ### The three requests -/

/-- The request that adds a role. -/
def createRequest? (session : Session) (name : RoleName) : Option Http.Request :=
  session.requestFor? .post [place] [] (some (payload name))

/-- The request that reads a role. -/
def readRequest? (session : Session) (name : RoleName) : Option Http.Request :=
  session.requestFor? .get (placeOf name) [] none

/-- The request that removes a role. -/
def removalRequest? (session : Session) (name : RoleName) : Option Http.Request :=
  session.requestFor? .delete (placeOf name) [] none

/-- The requests of a scope go out for a session that is online. -/
theorem exists_requests (online : session.IsOnline) (name : RoleName) :
    ∃ create read removal, createRequest? session name = some create ∧
      readRequest? session name = some read ∧ removalRequest? session name = some removal := by
  obtain ⟨create, creates, -⟩ :=
    Session.exists_requestFor? online .post [place] [] (some (payload name))
  obtain ⟨read, reads, -⟩ := Session.exists_requestFor? online .get (placeOf name) [] none
  obtain ⟨removal, removes, -⟩ := Session.exists_requestFor? online .delete (placeOf name) [] none
  exact ⟨create, read, removal, creates, reads, removes⟩

/-! ### The removal of a role -/

/-- Whether a role reads back: its response came whole and is not absent. -/
def readsBack (read : Http.Request) : Delivery → Bool
  | .replied status body => !(Http.Response.isAbsent ⟨read.method, read.url, status, body⟩)
  | .cutShort _ _ => false
  | .dropped _ => false

/-- How a removal ends, by the response to it: the status 404 is as good as 200. -/
def removedEnding (response : Http.Response) : Ending Unit :=
  if response.status = .notFound then .value ()
  else (Probe.demanded response.expectOk).map fun _ => ()

/-- What is logged of a removal, by the response to it. -/
def removedLog (name : RoleName) (response : Http.Response) : List LogLine :=
  if response.status = .notFound then
    [⟨.debug, s!"Role {name.text} was deleted before cleanup"⟩]
  else if response.status = .ok then [⟨.info, s!"Deleted role {name.text}"⟩]
  else []

/-- What is logged of a role that does not read back. -/
def goneLog (name : RoleName) : Delivery → List LogLine
  | .replied status _ => [⟨.debug, s!"Role {name.text} already gone ({status.shown})"⟩]
  | .cutShort _ _ => []
  | .dropped _ => []

/-- What is logged of a removal, by what is delivered for it. -/
def settledLog (name : RoleName) (removal : Http.Request) : Delivery → List LogLine
  | .replied status body => removedLog name ⟨removal.method, removal.url, status, body⟩
  | .cutShort _ _ => []
  | .dropped _ => []

/-- **A role that does not read back is not asked to be removed.** The removal fails only if the
response did not come whole. -/
theorem run_release_of_gone {read : Http.Request} (reads : readRequest? session name = some read)
    {service : Service σ} {state next : σ} {delivery : Delivery}
    (answered : service state read = (delivery, next)) (gone : readsBack read delivery = false) :
    (release session name).run service state =
      ⟨(Session.received read delivery).map fun _ => (), [(read, delivery)],
        Session.receivedLog read delivery ++ goneLog name delivery, next⟩ := by
  have course := Session.run_call reads service state
  rw [answered] at course
  unfold release get Session.get
  rw [Probe.run_seq, course]
  cases delivery with
  | replied status body =>
    have absent : Http.Response.isAbsent ⟨read.method, read.url, status, body⟩ = true := by
      simpa [readsBack] using gone
    simp only [Session.received, Run.andThen_value, if_pos absent, Probe.run_log, List.append_nil]
    rfl
  | cutShort status causes => rfl
  | dropped causes => rfl

/-- What is done with the response to a removal. -/
theorem run_settled (name : RoleName) (response : Http.Response) (service : Service σ) (state : σ) :
    Probe.run service
        (if response.status = .notFound then
          Probe.log .debug s!"Role {name.text} was deleted before cleanup"
        else do
          let _ ← Probe.demand response.expectOk
          Probe.log .info s!"Deleted role {name.text}")
        state =
      ⟨removedEnding response, [], removedLog name response, state⟩ := by
  unfold removedEnding removedLog
  by_cases missing : response.status = .notFound
  · simp only [if_pos missing, Probe.run_log]
  · simp only [if_neg missing, Probe.run_seq, Probe.run_demand]
    unfold Http.Response.expectOk Http.Response.expectStatus
    by_cases fine : response.status = .ok
    · simp only [if_pos fine]
      rfl
    · simp only [if_neg fine]
      rfl

/-- **A role that reads back is asked to be removed**, once. A response to that settles the rest. -/
theorem run_release_of_present {read removal : Http.Request}
    (reads : readRequest? session name = some read)
    (removes : removalRequest? session name = some removal) {service : Service σ}
    {state next final : σ} {delivery outcome : Delivery}
    (answered : service state read = (delivery, next)) (present : readsBack read delivery = true)
    (settled : service next removal = (outcome, final)) :
    (release session name).run service state =
      ⟨(Session.received removal outcome).bind removedEnding,
        [(read, delivery), (removal, outcome)],
        Session.receivedLog read delivery ++ Session.receivedLog removal outcome ++
          settledLog name removal outcome,
        final⟩ := by
  have readCourse := Session.run_call reads service state
  have removalCourse := Session.run_call removes service next
  rw [answered] at readCourse
  rw [settled] at removalCourse
  unfold release get delete Session.get Session.delete
  rw [Probe.run_seq, readCourse]
  cases delivery with
  | cutShort status causes => cases present
  | dropped causes => cases present
  | replied status body =>
    have back : ¬ Http.Response.isAbsent ⟨read.method, read.url, status, body⟩ = true := by
      simpa [readsBack] using present
    simp only [Session.received, Run.andThen_value, if_neg back]
    rw [Probe.run_seq, removalCourse]
    cases outcome with
    | cutShort other causes => simp [Session.received, Session.receivedLog, settledLog, Ending.bind]
    | dropped causes => simp [Session.received, Session.receivedLog, settledLog, Ending.bind]
    | replied other text =>
      simp only [Session.received, Run.andThen_value, run_settled, settledLog, Ending.bind,
        List.append_assoc, List.cons_append, List.nil_append]

theorem removedEnding_ne_panicked (response : Http.Response) (text : String) :
    removedEnding response ≠ .panicked text := by
  unfold removedEnding
  split
  · nofun
  · cases response.expectOk <;> nofun

/-- **A removal has no panics**, so that those of a scope are the body's. -/
theorem release_ne_panicked {read removal : Http.Request}
    (reads : readRequest? session name = some read)
    (removes : removalRequest? session name = some removal) (service : Service σ) (state : σ)
    (text : String) : ((release session name).run service state).ending ≠ .panicked text := by
  rcases answered : service state read with ⟨delivery, next⟩
  cases back : readsBack read delivery with
  | false =>
    rw [run_release_of_gone reads answered back]
    cases delivery <;> nofun
  | true =>
    rcases settled : service next removal with ⟨outcome, final⟩
    rw [run_release_of_present reads removes answered back settled]
    cases outcome with
    | replied status body => exact removedEnding_ne_panicked _ text
    | cutShort status causes => nofun
    | dropped causes => nofun

/-! ### The scope of a role -/

/-- How a scope ends, by the endings of its body and of the removal: a removal that fails takes the
place of a value. -/
def concluded : Ending α → Ending Unit → Ending α
  | .value value, removal => removal.map fun _ => value
  | .failed failure, _ => .failed failure
  | .panicked text, _ => .panicked text

/-- The line about a role that may be left behind. -/
def orphanLine (name : RoleName) (circumstance : String) (failure : Failure) : LogLine :=
  ⟨.warn, s!"Role {name.text} may be orphaned{circumstance}: {failure.line}"⟩

/-- What is logged at the end of a scope: a removal that failed, unless the scope fails for it. -/
def orphanLog (name : RoleName) : Ending α → Ending Unit → List LogLine
  | .failed _, .failed failure => [orphanLine name "" failure]
  | .panicked _, .failed failure => [orphanLine name " after a panic" failure]
  | _, _ => []

/-- A cleanup that succeeds leaves the ending of the body and logs nothing. -/
theorem concluded_value (name : RoleName) (ending : Ending α) (done : Unit) :
    concluded ending (.value done) = ending ∧ orphanLog name ending (.value done) = [] := by
  cases ending with
  | value value => exact ⟨rfl, rfl⟩
  | failed failure => exact ⟨rfl, rfl⟩
  | panicked text => exact ⟨rfl, rfl⟩

/-- The line about a role that was created. -/
def createdLine (name : RoleName) : LogLine := ⟨.info, s!"Created role {name.text}"⟩

/-- The conclusion of a scope, by the endings of its body and of the removal. -/
theorem run_conclude (name : RoleName) (ending : Ending α) {removal : Ending Unit}
    (calm : ∀ text, removal ≠ .panicked text) (exchanges : List Exchange) (log : List LogLine)
    (service : Service σ) (state : σ) :
    Run.andThen ⟨Probe.attempted removal, exchanges, log, state⟩
        (fun result state => (conclude name result ending).run service state) =
      ⟨concluded ending removal, exchanges, log ++ orphanLog name ending removal, state⟩ := by
  cases removal with
  | panicked text => exact absurd rfl (calm text)
  | value done => cases ending <;> simp [Probe.attempted, conclude, warnOrphaned, Probe.orFail,
      concluded, orphanLog, Ending.map, Ending.bind, Probe.run]
  | failed failure => cases ending <;> simp [Probe.attempted, conclude, warnOrphaned, Probe.orFail,
      concluded, orphanLog, orphanLine, Ending.map, Ending.bind, Probe.run]

/-- The course of a scope up to the call of its body. -/
theorem run_withRole_of_answered {create : Http.Request}
    (creates : createRequest? session name = some create) {service : Service σ} {state next : σ}
    {text : Bytes} (answered : service state create = (.replied .ok text, next)) (body : Body α) :
    (withRole session name body).run service state =
      (⟨.value (), [(create, .replied .ok text)],
          Session.receivedLog create (.replied .ok text) ++ [createdLine name], next⟩ :
          Run σ Unit).after
        ((do
          let started ← body.call
          let ending ← started.ending
          let removal ← (release session name).attempt
          conclude name removal ending).run service next) := by
  have creation := Session.run_call creates service state
  rw [answered] at creation
  unfold withRole Roles.create createWith Session.post
  rw [Probe.run_seq, creation]
  simp only [Session.received, Run.andThen_value, Probe.run_seq, Probe.run_demand, expectOk_ok,
    Probe.demanded, Probe.run_log, Run.after, createdLine, List.append_assoc, List.cons_append,
    List.nil_append]

/-- **The scope of a role that was created**: the creation, the body and the removal follow each
other, whatever the body asks for and however it ends, once its call gave a probe. -/
theorem run_withRole_of_created {create read removal : Http.Request}
    (creates : createRequest? session name = some create)
    (reads : readRequest? session name = some read)
    (removes : removalRequest? session name = some removal) {service : Service σ}
    {state next : σ} {text : Bytes} (answered : service state create = (.replied .ok text, next))
    {body : Probe α} {inner : Run σ α} (inside : body.run service next = inner)
    {cleanup : Run σ Unit} (after : (release session name).run service inner.state = cleanup) :
    (withRole session name (.runs body)).run service state =
      ⟨concluded inner.ending cleanup.ending,
        (create, .replied .ok text) :: (inner.exchanges ++ cleanup.exchanges),
        Session.receivedLog create (.replied .ok text) ++
          createdLine name :: (inner.log ++ cleanup.log ++
            orphanLog name inner.ending cleanup.ending),
        cleanup.state⟩ := by
  have calm := release_ne_panicked reads removes service inner.state
  rw [after] at calm
  have started : (Body.runs body).call.run service next = ⟨.value body, [], [], next⟩ := rfl
  rw [run_withRole_of_answered creates answered]
  simp only [Probe.run_seq, started, Run.andThen_value, Probe.run_ending, Probe.run_attempt, inside,
    after, run_conclude name _ calm, Run.after, List.append_assoc, List.cons_append,
    List.nil_append]

/-- **The scope of a role whose body panics when it is called** ends with that panic, right after
the creation. -/
theorem run_withRole_of_panics {create : Http.Request}
    (creates : createRequest? session name = some create) {service : Service σ} {state next : σ}
    {text : Bytes} (answered : service state create = (.replied .ok text, next))
    (log : List LogLine) (payload : String) :
    (withRole session name (.panics log payload : Body α)).run service state =
      ⟨.panicked payload, [(create, .replied .ok text)],
        Session.receivedLog create (.replied .ok text) ++ createdLine name :: log, next⟩ := by
  rw [run_withRole_of_answered creates answered, Probe.run_seq, Body.run_call_panics]
  simp only [Run.andThen_panicked, Run.after, List.append_assoc, List.cons_append, List.nil_append]

/-- **The scope of a role that was not created** is the attempt to create it. -/
theorem run_withRole_of_refused {create : Http.Request}
    (creates : createRequest? session name = some create) {service : Service σ} {state next : σ}
    {delivery : Delivery} (answered : service state create = (delivery, next))
    (refused : ∀ text, delivery ≠ .replied .ok text) (body : Body α) :
    (withRole session name body).run service state =
      ⟨(Session.received create delivery).bind fun response =>
          .failed (.mismatch (response.mismatch (.status .ok))),
        [(create, delivery)], Session.receivedLog create delivery, next⟩ := by
  have creation := Session.run_call creates service state
  rw [answered] at creation
  unfold withRole Roles.create createWith Session.post
  rw [Probe.run_seq, creation]
  cases delivery with
  | cutShort status causes => rfl
  | dropped causes => rfl
  | replied status text =>
    have other : status ≠ .ok := fun same => refused text (by rw [same])
    simp only [Session.received, Run.andThen_value, Probe.run_seq, Probe.run_demand,
      expectOk_of_ne other, Probe.demanded, Run.andThen_failed, Ending.bind, List.append_nil]

end LogProbe.Roles
