/-
**The requests of a scope.** Whatever comes back and however the body ends, a scope asks for the
creation of its role and, if that had status 200, for what its body asks for, for one reading of the
role and, if the role reads back, for one removal. Nothing is asked twice and nothing after that.
There is one way out of this: a body that panics when it is called, before there is a probe to run,
takes the scope with it, and the role stays.

* `Roles.exchanges_withRole_of_present`, `Roles.exchanges_withRole_of_gone` — a scope whose role was
  created, by what is delivered for the reading after the body.
* `Roles.exchanges_withRole` — the law of scopes, for the session of an accepted configuration, and
  when it holds.
-/

import LogProbe.Proofs.Config.BaseUrl
import LogProbe.Proofs.Roles.Course

namespace LogProbe.Roles

variable {σ α : Type} {session : Session} {name : RoleName}

/-! ### Scopes whose role was created -/

section Created

variable {create read removal : Http.Request} (creates : createRequest? session name = some create)
  (reads : readRequest? session name = some read)
  (removes : removalRequest? session name = some removal) {service : Service σ} {state next : σ}
  {text : Bytes} (answered : service state create = (.replied .ok text, next)) (body : Probe α)

include creates reads removes answered

/-- A role that reads back after the body is removed, and that is all. -/
theorem exchanges_withRole_of_present {delivery : Delivery} {later : σ}
    (current : service (body.run service next).state read = (delivery, later))
    (present : readsBack read delivery = true) :
    ((withRole session name (.runs body)).run service state).exchanges =
        (create, .replied .ok text) :: ((body.run service next).exchanges ++
          [(read, delivery), (removal, (service later removal).1)]) ∧
      ((withRole session name (.runs body)).run service state).state =
        (service later removal).2 := by
  have cleanup := run_release_of_present reads removes current present rfl
  rw [run_withRole_of_created creates reads removes answered rfl cleanup]
  exact ⟨rfl, rfl⟩

/-- A role that does not read back after the body is left alone. -/
theorem exchanges_withRole_of_gone {delivery : Delivery} {later : σ}
    (current : service (body.run service next).state read = (delivery, later))
    (gone : readsBack read delivery = false) :
    ((withRole session name (.runs body)).run service state).exchanges =
        (create, .replied .ok text) ::
          ((body.run service next).exchanges ++ [(read, delivery)]) ∧
      ((withRole session name (.runs body)).run service state).state = later := by
  have cleanup := run_release_of_gone reads current gone
  rw [run_withRole_of_created creates reads removes answered rfl cleanup]
  exact ⟨rfl, rfl⟩

end Created

/-- A scope whose role was not created asks for nothing else, fails and is the same for all
bodies. -/
theorem exchanges_withRole_of_refused {create : Http.Request}
    (creates : createRequest? session name = some create) {service : Service σ} {state : σ}
    (refused : ∀ text, (service state create).1 ≠ .replied .ok text) (body : Body α) :
    ((withRole session name body).run service state).exchanges =
        [(create, (service state create).1)] ∧
      ((withRole session name body).run service state).state = (service state create).2 ∧
      (∃ failure, ((withRole session name body).run service state).ending = .failed failure) ∧
      ∀ other : Body α, (withRole session name other).run service state =
        (withRole session name body).run service state := by
  have answered : service state create = ((service state create).1, (service state create).2) := rfl
  have course (any : Body α) := run_withRole_of_refused creates answered refused any
  rw [course body]
  refine ⟨rfl, rfl, ?_, course⟩
  cases (service state create).1 with
  | replied status text => exact ⟨_, rfl⟩
  | cutShort status causes => exact ⟨_, rfl⟩
  | dropped causes => exact ⟨_, rfl⟩

/-- A scope whose body panics when it is called asks for nothing but the creation. -/
theorem exchanges_withRole_of_panics {create : Http.Request}
    (creates : createRequest? session name = some create) {service : Service σ} {state : σ}
    {text : Bytes} (created : (service state create).1 = .replied .ok text) (log : List LogLine)
    (payload : String) :
    let run := (withRole session name (.panics log payload : Body α)).run service state
    run.exchanges = [(create, .replied .ok text)] ∧ run.state = (service state create).2 ∧
      run.ending = .panicked payload := by
  intro run
  have answered : service state create = (.replied .ok text, (service state create).2) :=
    Prod.ext created rfl
  have course : run = _ := run_withRole_of_panics creates answered log payload
  rw [course]
  exact ⟨rfl, rfl, rfl⟩

/-! ### All scopes -/

/-- **The law of scopes, and when it holds.** A creation that fails in transport or has another
status than 200 is the only request, and its scope does not depend on the body. After any other
creation come the requests of the body, then one reading of the role, and then one removal of it
exactly if the response to that came whole and is not absent: this holds exactly if the call of the
body gave a probe. A call that panics ends the scope, and the creation stays its only request. -/
theorem exchanges_withRole {lookup : Config.Lookup} {config : Config}
    (accepted : Config.ofLookup lookup = .ok config) (name : RoleName) (body : Body α)
    (service : Service σ) (state : σ) :
    let session := Session.ofConfig config
    let run := (withRole session name body).run service state
    ∃ create read removal, createRequest? session name = some create ∧
      readRequest? session name = some read ∧ removalRequest? session name = some removal ∧
      let creation := service state create
      let inner := body.run service creation.2
      let current := service inner.state read
      let outcome := service current.2 removal
      ((∀ text, creation.1 ≠ .replied .ok text) →
        run.exchanges = [(create, creation.1)] ∧ run.state = creation.2 ∧
          (∃ failure, run.ending = .failed failure) ∧
          ∀ other : Body α, (withRole session name other).run service state = run) ∧
      ∀ text, creation.1 = .replied .ok text →
        (body.Starts ↔
          (readsBack read current.1 = true →
            run.exchanges = (create, creation.1) ::
                (inner.exchanges ++ [(read, current.1), (removal, outcome.1)]) ∧
              run.state = outcome.2) ∧
          (readsBack read current.1 = false →
            run.exchanges = (create, creation.1) :: (inner.exchanges ++ [(read, current.1)]) ∧
              run.state = current.2)) ∧
        ∀ log payload, body = .panics log payload →
          run.exchanges = [(create, creation.1)] ∧ run.state = creation.2 ∧
            run.ending = .panicked payload := by
  intro session run
  obtain ⟨create, read, removal, creates, reads, removes⟩ :=
    exists_requests (Config.isOnline_of_ofLookup accepted) name
  refine ⟨create, read, removal, creates, reads, removes, ?_⟩
  intro creation inner current outcome
  constructor
  · intro refused
    exact exchanges_withRole_of_refused creates refused body
  · intro text created
    have answered : service state create = (.replied .ok text, creation.2) := by
      rw [← created]
    rw [created]
    refine ⟨⟨?_, fun law => ?_⟩, ?_⟩
    · rintro ⟨probe, rfl⟩
      constructor
      · intro present
        exact exchanges_withRole_of_present creates reads removes answered probe rfl present
      · intro gone
        exact exchanges_withRole_of_gone creates reads removes answered probe rfl gone
    · rcases body.starts_or_panics with starts | ⟨log, payload, rfl⟩
      · exact starts
      · -- The law has a reading after the creation, and there is none.
        have alone : run.exchanges = [(create, .replied .ok text)] :=
          (exchanges_withRole_of_panics creates created log payload).1
        rw [alone] at law
        cases back : readsBack read current.1 with
        | true => simpa using (law.1 back).1
        | false => simpa using (law.2 back).1
    · rintro log payload rfl
      exact exchanges_withRole_of_panics creates created log payload

/-- A role that reads back after a body that asks for nothing is removed. -/
theorem exchanges_withRole_local :
    ∃ config, Config.ofLookup Config.localLookup = .ok config ∧ ∃ create read removal,
      createRequest? (Session.ofConfig config) ⟨"r"⟩ = some create ∧
      readRequest? (Session.ofConfig config) ⟨"r"⟩ = some read ∧
      removalRequest? (Session.ofConfig config) ⟨"r"⟩ = some removal ∧
      ((withRole (Session.ofConfig config) ⟨"r"⟩ (.runs (pure ()))).run Script.service
          ⟨[.replied .ok [], .replied .ok [0x31], .replied .notFound []], []⟩).exchanges =
        [(create, .replied .ok []), (read, .replied .ok [0x31]),
          (removal, .replied .notFound [])] := by
  obtain ⟨config, accepted, -, -⟩ := Config.exists_ofLookup_local
  obtain ⟨create, read, removal, creates, reads, removes, -, created⟩ :=
    exchanges_withRole accepted ⟨"r"⟩ (.runs (pure ())) Script.service
      ⟨[.replied .ok [], .replied .ok [0x31], .replied .notFound []], []⟩
  have present : readsBack read (.replied .ok [0x31]) = true := rfl
  exact ⟨config, accepted, create, read, removal, creates, reads, removes,
    (((created [] rfl).1.mp (Body.starts_runs _)).1 present).1⟩

/-- **A role that is left behind by a panic.** The service confirms the creation and would answer a
reading and a removal. The body panics when it is called, and the creation stays the only
request. -/
theorem no_cleanup_after_panicking_call :
    ∃ config, Config.ofLookup Config.localLookup = .ok config ∧
      let run := (withRole (Session.ofConfig config) ⟨"r"⟩ (.panics [] "x" : Body Unit)).run
        Script.service ⟨[.replied .ok [], .replied .ok [0x31], .replied .ok []], []⟩
      ∃ create, createRequest? (Session.ofConfig config) ⟨"r"⟩ = some create ∧
        run.exchanges = [(create, .replied .ok [])] ∧ run.ending = .panicked "x" ∧
        ∀ exchange ∈ run.exchanges, exchange.1.method ≠ .get ∧ exchange.1.method ≠ .delete := by
  obtain ⟨config, accepted, -, -⟩ := Config.exists_ofLookup_local
  refine ⟨config, accepted, ?_⟩
  intro run
  obtain ⟨create, -, -, creates, -, -⟩ :=
    exists_requests (Config.isOnline_of_ofLookup accepted) ⟨"r"⟩
  obtain ⟨alone, -, ends⟩ : run.exchanges = [(create, .replied .ok [])] ∧ _ ∧ _ :=
    exchanges_withRole_of_panics creates rfl [] "x"
  have poster : create.method = .post := (Session.parts_of_requestFor? creates).1
  refine ⟨create, creates, alone, ends, ?_⟩
  rw [alone]
  refine List.forall_mem_singleton.mpr ?_
  rw [poster]
  decide

end LogProbe.Roles
