/-
**Roles that were created without a whole response.** The status of a response comes before its
body. A creation whose status is 200 but whose body is cut short counts as a failure, and its role
is neither read nor removed, though the service confirmed it.

* `Delivery.status?` — the status that came back, with or without a whole body.
* `Roles.run_withRole_of_cutShort` — the scope of a role whose creation is cut short.
* `Roles.cleanup_follows_creation_iff` — a confirmed creation is followed by a cleanup exactly if
  its response came whole and the call of the body gave a probe.
-/

import LogProbe.Proofs.Roles.Lifetime

namespace LogProbe

/-- The status that came back, also where the body did not come whole. -/
def Delivery.status? : Delivery → Option Http.Status
  | .replied status _ => some status
  | .cutShort status _ => some status
  | .dropped _ => none

/-- A status comes back with a whole body or in front of one that is cut short. -/
theorem Delivery.of_status? {delivery : Delivery} {status : Http.Status}
    (answered : delivery.status? = some status) :
    (∃ body, delivery = .replied status body) ∨ ∃ causes, delivery = .cutShort status causes := by
  cases delivery with
  | replied other body =>
    cases answered
    exact .inl ⟨body, rfl⟩
  | cutShort other causes =>
    cases answered
    exact .inr ⟨causes, rfl⟩
  | dropped causes => cases answered

namespace Roles

variable {σ α : Type} {session : Session} {name : RoleName}

/-- **The scope of a role whose creation is cut short** is that creation alone, whatever its status
was and whatever the body would do. -/
theorem run_withRole_of_cutShort {create : Http.Request}
    (creates : createRequest? session name = some create) {service : Service σ} {state : σ}
    {status : Http.Status} {causes : List String}
    (cut : (service state create).1 = .cutShort status causes) (body : Body α) :
    (withRole session name body).run service state =
      ⟨.failed (.transport (.cutShort create.method create.url causes)),
        [(create, .cutShort status causes)], [], (service state create).2⟩ := by
  have answered : service state create = (.cutShort status causes, (service state create).2) :=
    Prod.ext cut rfl
  rw [run_withRole_of_refused creates answered nofun body]
  rfl

/-- A scope whose role was created reads the role directly after what its body asks for. -/
theorem exists_exchanges_of_created {create read : Http.Request}
    (creates : createRequest? session name = some create)
    (reads : readRequest? session name = some read) {service : Service σ} {state : σ} {text : Bytes}
    (created : (service state create).1 = .replied .ok text) (body : Probe α) :
    let inner := body.run service (service state create).2
    ∃ rest, ((withRole session name (.runs body)).run service state).exchanges =
      (create, .replied .ok text) ::
        (inner.exchanges ++ (read, (service inner.state read).1) :: rest) := by
  intro inner
  obtain ⟨-, -, removal, -, -, removes⟩ :=
    exists_requests (Session.isOnline_of_requestFor? creates) name
  have answered : service state create = (.replied .ok text, (service state create).2) :=
    Prod.ext created rfl
  rcases current : service inner.state read with ⟨delivery, next⟩
  cases back : readsBack read delivery with
  | false =>
    exact ⟨[], (exchanges_withRole_of_gone creates reads removes answered body current back).1⟩
  | true =>
    exact ⟨[(removal, (service next removal).1)],
      (exchanges_withRole_of_present creates reads removes answered body current back).1⟩

/-- **When a confirmed creation is followed by a cleanup.** After a creation that was answered with
the status 200, the role is read once the body is through, exactly if the response came whole and
the call of the body gave a probe. If the response was cut short, the creation is the only request,
the body does not run, and the scope fails. If the call of the body panics, the creation is the only
request too, and the scope panics. -/
theorem cleanup_follows_creation_iff {create : Http.Request}
    (creates : createRequest? session name = some create) {service : Service σ} {state : σ}
    (confirmed : (service state create).1.status? = some .ok) (body : Body α) :
    let creation := service state create
    let inner := body.run service creation.2
    let run := (withRole session name body).run service state
    ∃ read, readRequest? session name = some read ∧
      ((∃ rest, run.exchanges = (create, creation.1) ::
          (inner.exchanges ++ (read, (service inner.state read).1) :: rest)) ↔
        (∀ causes, creation.1 ≠ .cutShort .ok causes) ∧ body.Starts) ∧
      (∀ causes, creation.1 = .cutShort .ok causes →
        run.exchanges = [(create, creation.1)] ∧ run.state = creation.2 ∧
          run.ending = .failed (.transport (.cutShort create.method create.url causes))) ∧
      ∀ log payload, body = .panics log payload → (∀ causes, creation.1 ≠ .cutShort .ok causes) →
        run.exchanges = [(create, creation.1)] ∧ run.state = creation.2 ∧
          run.ending = .panicked payload := by
  intro creation inner run
  obtain ⟨-, read, -, -, reads, -⟩ :=
    exists_requests (Session.isOnline_of_requestFor? creates) name
  have cutShort {causes : List String} (cut : creation.1 = .cutShort .ok causes) :
      run = ⟨_, _, _, _⟩ := run_withRole_of_cutShort creates cut body
  have panics {log : List LogLine} {payload : String} (called : body = .panics log payload)
      (whole : ∀ causes, creation.1 ≠ .cutShort .ok causes) :
      run.exchanges = [(create, creation.1)] ∧ run.state = creation.2 ∧
        run.ending = .panicked payload := by
    subst called
    rcases Delivery.of_status? confirmed with ⟨text, created⟩ | ⟨causes, cut⟩
    · rw [show creation.1 = _ from created]
      exact exchanges_withRole_of_panics creates created log payload
    · exact absurd cut (whole causes)
  refine ⟨read, reads, ⟨?_, ?_⟩, ?_, fun log payload => panics⟩
  · rintro ⟨rest, asked⟩
    have more : run.exchanges ≠ [(create, creation.1)] := by
      rw [asked]
      simp
    have whole (causes : List String) : creation.1 ≠ .cutShort .ok causes := by
      intro cut
      rw [cutShort cut, cut] at more
      exact more rfl
    refine ⟨whole, ?_⟩
    rcases body.starts_or_panics with starts | ⟨log, payload, called⟩
    · exact starts
    · exact absurd (panics called whole).1 more
  · rintro ⟨whole, probe, rfl⟩
    rcases Delivery.of_status? confirmed with ⟨text, created⟩ | ⟨causes, cut⟩
    · obtain ⟨rest, asked⟩ := exists_exchanges_of_created creates reads created probe
      exact ⟨rest, by rw [show creation.1 = _ from created]; exact asked⟩
    · exact absurd cut (whole causes)
  · intro causes cut
    rw [cutShort cut, cut]
    exact ⟨rfl, rfl, rfl⟩

/-- The scope of a role of the sample session whose creation comes whole. -/
theorem cleanup_follows_creation_iff_sample :
    let service : Service Script := Script.service
    let script : Script := ⟨[.replied .ok [], .replied .notFound []], []⟩
    let run := (withRole sampleSession ⟨"role_1"⟩ (.runs (pure ()))).run service script
    ∃ create read rest, createRequest? sampleSession ⟨"role_1"⟩ = some create ∧
      readRequest? sampleSession ⟨"role_1"⟩ = some read ∧
      run.exchanges = (create, .replied .ok []) :: (read, .replied .notFound []) :: rest := by
  intro service script run
  obtain ⟨create, -, -, creates, -, -⟩ := exists_requests isOnline_sampleSession ⟨"role_1"⟩
  have confirmed : (service script create).1.status? = some .ok := rfl
  obtain ⟨read, reads, followed, -⟩ :=
    cleanup_follows_creation_iff creates confirmed (.runs (pure () : Probe Unit))
  obtain ⟨rest, asked⟩ := followed.mpr ⟨nofun, Body.starts_runs _⟩
  exact ⟨create, read, rest, creates, reads, asked⟩

/-- **A confirmed role that is left behind.** The service answers the creation with the status 200
and the connection ends before the body: the role is not even read. -/
theorem no_cleanup_after_cutShort_creation :
    let run := (withRole sampleSession ⟨"role_1"⟩ (.runs (pure ()))).run Script.service
      ⟨[.cutShort .ok, .replied .ok [], .replied .ok []], []⟩
    ∃ create, createRequest? sampleSession ⟨"role_1"⟩ = some create ∧
      (Delivery.cutShort .ok).status? = some .ok ∧
      run.exchanges = [(create, .cutShort .ok)] ∧
      ∀ exchange ∈ run.exchanges, exchange.1.method ≠ .get := by
  intro run
  obtain ⟨create, -, -, creates, -, -⟩ := exists_requests isOnline_sampleSession ⟨"role_1"⟩
  have course : run = _ := run_withRole_of_cutShort creates rfl (.runs (pure ()))
  have poster : create.method = .post := (Session.parts_of_requestFor? creates).1
  have other : Http.Method.post ≠ .get := by decide
  refine ⟨create, creates, rfl, by rw [course], ?_⟩
  rw [course]
  simpa [poster] using other

end Roles

end LogProbe
