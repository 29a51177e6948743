/-
**Lives of a role, step by step.** Each scenario is a list of steps that are taken one after the
other, up to and including the first whose response is not as expected, between the creation of the
role and a cleanup.

* `Roles.Step` — a step: what it asks for (`Step.request?`) and what may be wrong with what comes
  back for it (`Step.faultIn?`). Both are spelled out here: the method, place, query and content of
  a request, and the fields of a mismatch.
* `Roles.Step.request?_eq` — the requests of the steps are those that go out.
* `Roles.Life` and `Life.steps` — the five scenarios and their steps.
* `Roles.Tried`, `Roles.Cleaned` — the exchanges of steps and of a cleanup, and what went wrong.
* `Roles.Life.probe_eq` — a scenario is the scope of a role in which its steps are followed.
* `Roles.tried_none_iff` — nothing went wrong exactly if every step passed.
* `Roles.life_follows_steps` — the course of each scenario.
-/

import LogProbe.Proofs.Config.BaseUrl
import LogProbe.Proofs.Roles.Service
import LogProbe.Roles.Scenario
import Mathlib.Data.List.Forall2

namespace LogProbe.Roles

/-! ### What may go wrong -/

/-- What is wrong with a response that has to be 200: it has another status. -/
def statusFault? (response : Http.Response) : Option Failure :=
  if response.status = ⟨200⟩ then none
  else some <| .mismatch {
    method := response.method
    url := response.url
    expected := .status ⟨200⟩
    actual := response.status
    body := String.ofList (Utf8.decodeLossy response.body) }

/-- What is wrong with a response whose body has to be JSON that names a role. -/
def nameFault? (name : RoleName) (response : Http.Response) : Option Failure :=
  match response.json? with
  | none => some .notJson
  | some value =>
    if value.namesRole name.text then none
    else some (.unnamedRole name.text (String.ofList (Utf8.decodeLossy response.body)))

/-- What is wrong with a response that has to find nothing: it found something. -/
def absenceFault? (response : Http.Response) : Option Failure :=
  if response.isAbsent then none
  else some <| .mismatch {
    method := response.method
    url := response.url
    expected := .absent
    actual := response.status
    body := String.ofList (Utf8.decodeLossy response.body) }

/-- What is wrong with the response to a removal in a cleanup, where 404 is as good as 200. -/
def removalFault? (response : Http.Response) : Option Failure :=
  if response.status = ⟨404⟩ then none else statusFault? response

/-- What is wrong with what came back for a request: it is no whole response, or the response is at
fault. -/
def deliveryFault? (fault? : Http.Response → Option Failure) : Exchange → Option Failure
  | (request, .replied status body) => fault? ⟨request.method, request.url, status, body⟩
  | (request, .cutShort _ causes) =>
    some (.transport (.cutShort request.method request.url causes))
  | (request, .dropped causes) =>
    some (.transport (.unanswered request.method request.url causes))

/-- These are the mismatches that the checks of a response report. -/
theorem statusFault?_eq (response : Http.Response) :
    statusFault? response =
      if response.status = .ok then none else some (.mismatch (response.mismatch (.status .ok))) :=
  rfl

theorem absenceFault?_eq (response : Http.Response) :
    absenceFault? response =
      if response.isAbsent then none else some (.mismatch (response.mismatch .absent)) := rfl

theorem removalFault?_eq (response : Http.Response) :
    removalFault? response =
      if response.status = .notFound then none else statusFault? response := rfl

/-- How a probe ends in which something may have gone wrong. -/
def ended : Option Failure → Ending Unit
  | none => .value ()
  | some failure => .failed failure

theorem ended_eq_value_iff (fault : Option Failure) : ended fault = .value () ↔ fault = none := by
  cases fault with
  | none => exact ⟨fun _ => rfl, fun _ => rfl⟩
  | some failure => exact ⟨nofun, nofun⟩

/-- A call that is judged ends by what is wrong with what came back. -/
theorem received_bind_ended (request : Http.Request) (delivery : Delivery)
    (fault? : Http.Response → Option Failure) :
    (Session.received request delivery).bind (fun response => ended (fault? response)) =
      ended (deliveryFault? fault? (request, delivery)) := by
  cases delivery <;> rfl

/-! ### Steps -/

/-- A step in the life of a role. -/
inductive Step where
  | creation
  | reading
  | naming
  | permissions (category : String)
  | update
  | rotation
  | removal
  | absence

namespace Step

/-- The method of a step. -/
def method : Step → String
  | creation => "POST"
  | reading | naming | absence | permissions _ => "GET"
  | update | rotation => "PUT"
  | removal => "DELETE"

/-- Where a step goes in the organisation. -/
def segments (name : RoleName) : Step → List String
  | creation => ["roles"]
  | permissions category => ["roles", name.text, "permissions", category]
  | reading | naming | absence | update | rotation | removal => ["roles", name.text]

/-- The query of a step, by the query that the base URL has of its own. -/
def query (step : Step) (own : Option (List Char)) : Option (List Char) :=
  match step, own with
  | rotation, none | rotation, some [] => some "rotateToken=true".toList
  | rotation, some own => some (own ++ "&rotateToken=true".toList)
  | _, own => own

/-- The content of a step that sends any: the name of the role. -/
def content? (name : RoleName) : Step → Option Http.Content
  | creation | update | rotation =>
    some ⟨"application/json", (Json.Value.object [("name", .string name.text)]).text⟩
  | reading | naming | absence | permissions _ | removal => none

/-- The request of a step. -/
def request? (session : Session) (name : RoleName) (step : Step) : Option Http.Request :=
  (session.orgUrl? (step.segments name)).map fun place => {
    method := ⟨step.method⟩
    url := { (if place.signIn?.isSome then place.withoutUserinfo else place) with
      query := step.query place.query }
    authorization := session.authorization place
    content := step.content? name }

/-- The request of the call of a step. -/
def requestFor? (session : Session) (name : RoleName) : Step → Option Http.Request
  | creation => createRequest? session name
  | reading | naming | absence => readRequest? session name
  | permissions category => permissionsRequest? session name category
  | update => changeRequest? session name []
  | rotation => changeRequest? session name [("rotateToken", "true")]
  | removal => removalRequest? session name

/-- The call of a step. -/
def call (session : Session) (name : RoleName) : Step → Probe Http.Response
  | creation => create session name
  | reading | naming | absence => get session name
  | permissions category => Roles.permissions session name category
  | update => Roles.update session name
  | rotation => rotateToken session name
  | removal => delete session name

/-- What is wrong with the response to a step. Most have to be 200; the name of the role is looked
for in a body only after that, and a role that should be gone may be refused in any way. -/
def fault? (name : RoleName) (step : Step) (response : Http.Response) : Option Failure :=
  match step with
  | naming => (statusFault? response).or (nameFault? name response)
  | absence => absenceFault? response
  | _ => statusFault? response

/-- What is wrong with an exchange of a step. -/
def faultIn? (name : RoleName) (step : Step) (exchange : Exchange) : Option Failure :=
  deliveryFault? (step.fault? name) exchange

end Step

/-- Steps one after the other, up to the first at fault. -/
def followed (session : Session) (name : RoleName) : List Step → Probe Unit
  | [] => pure ()
  | step :: rest => do
    let response ← step.call session name
    match step.fault? name response with
    | some failure => .failed failure
    | none => followed session name rest

variable {σ α : Type} {session : Session} {name : RoleName}

/-- The pair of a rotation goes behind the query of the base URL, if that has any. -/
theorem Step.query_rotation (place : Url) :
    (place.withQuery [("rotateToken", "true")]).query = rotation.query place.query := by
  have pair : Url.formPairs [("rotateToken", "true")] = "rotateToken=true".toList := by decide
  unfold Url.withQuery Step.query
  rw [if_neg (List.cons_ne_nil _ _), pair]
  split <;> simp_all

/-- **The requests of the steps are those that go out**, for a session that is online. -/
theorem Step.request?_eq (online : session.IsOnline) (name : RoleName) (step : Step) :
    step.request? session name = step.requestFor? session name := by
  have found := Session.orgUrl?_of_isOnline online (step.segments name)
  have sends := Session.requestFor?_of_isOnline online found
  unfold request?
  rw [found, Option.map_some]
  cases step with
  | creation => exact (sends .post [] (some (payload name))).symm
  | reading | naming | absence => exact (sends .get [] none).symm
  | permissions category => exact (sends .get [] none).symm
  | update => exact (sends .put [] (some (payload name))).symm
  | removal => exact (sends .delete [] none).symm
  | rotation =>
    rw [← Step.query_rotation]
    exact (sends .put [("rotateToken", "true")] (some (payload name))).symm

theorem Step.exists_request? (online : session.IsOnline) (name : RoleName) (step : Step) :
    ∃ request, step.request? session name = some request := by
  unfold request?
  rw [Session.orgUrl?_of_isOnline online]
  exact ⟨_, rfl⟩

/-- The course of the call of a step. -/
theorem Step.run_call (online : session.IsOnline) {step : Step} {request : Http.Request}
    (sends : step.request? session name = some request) (service : Service σ) (state : σ) :
    (step.call session name).run service state =
      ⟨Session.received request (service state request).1, [(request, (service state request).1)],
        Session.receivedLog request (service state request).1, (service state request).2⟩ := by
  rw [request?_eq online] at sends
  cases step <;> exact Session.run_call sends service state

/-! ### Lives -/

/-- The scenarios about the life of a role. -/
inductive Life where
  | createDelete
  | createPermissionsDelete (category : String)
  | createPermissionsUpdateDelete (category : String)
  | createGetRotateDelete
  | fullLifecycle

namespace Life

/-- The probe of a scenario. -/
def probe (session : Session) (name : RoleName) : Life → Probe Unit
  | createDelete => Roles.createDelete session name
  | createPermissionsDelete category => Roles.createPermissionsDelete session name category
  | createPermissionsUpdateDelete category =>
    Roles.createPermissionsUpdateDelete session name category
  | createGetRotateDelete => Roles.createGetRotateDelete session name
  | fullLifecycle => Roles.fullLifecycle session name

/-- The steps of a scenario after the creation of its role. -/
def steps : Life → List Step
  | createDelete => [.removal]
  | createPermissionsDelete category => [.permissions category, .removal]
  | createPermissionsUpdateDelete category => [.permissions category, .update, .removal]
  | createGetRotateDelete => [.reading, .rotation, .removal]
  | fullLifecycle => [.naming, .update, .removal, .absence]

end Life

/-! ### Scenarios as steps -/

/-- A response that has to be 200, and what is done with it. -/
theorem checked_seq (call : Probe Http.Response) (next : Http.Response → Probe α) :
    checked call >>= next = call >>= fun response =>
      match statusFault? response with
      | some failure => .failed failure
      | none => next response := by
  show Probe.bind (Probe.bind call fun response => Probe.demand response.expectOk) next = _
  rw [Probe.bind_assoc]
  refine congrArg (Probe.bind call) (funext fun response => ?_)
  rw [statusFault?_eq]
  unfold Http.Response.expectOk Http.Response.expectStatus
  by_cases fine : response.status = .ok
  · rw [if_pos fine, if_pos fine]
    rfl
  · rw [if_neg fine, if_neg fine]
    rfl

/-- A response that has to name a role, and what is done after that. -/
theorem demandNamed_seq (name : RoleName) (response : Http.Response) (next : Unit → Probe α) :
    demandNamed name response >>= next =
      match nameFault? name response with
      | some failure => .failed failure
      | none => next () := by
  unfold demandNamed nameFault?
  cases response.json? with
  | none => rfl
  | some value =>
    dsimp only
    by_cases named : value.namesRole name.text = true
    · rw [if_pos named, if_pos named]
      rfl
    · rw [if_neg named, if_neg named]
      rfl

/-- A response that has to find nothing. -/
theorem demand_expectAbsent (response : Http.Response) :
    (do
      let _ ← Probe.demand response.expectAbsent
      pure () : Probe Unit) =
      match absenceFault? response with
      | some failure => .failed failure
      | none => pure () := by
  rw [absenceFault?_eq]
  unfold Http.Response.expectAbsent
  by_cases absent : response.isAbsent = true
  · rw [if_pos absent, if_pos absent]
    rfl
  · rw [if_neg absent, if_neg absent]
    rfl

/-- **A scenario is the scope of a role in which its steps are followed.** -/
theorem Life.probe_eq (session : Session) (name : RoleName) (life : Life) :
    life.probe session name = withRole session name (.runs (followed session name life.steps)) := by
  cases life with
  | createDelete =>
    simp only [probe, Roles.createDelete, checked_seq]
    rfl
  | createPermissionsDelete category =>
    simp only [probe, Roles.createPermissionsDelete, checked_seq]
    rfl
  | createPermissionsUpdateDelete category =>
    simp only [probe, Roles.createPermissionsUpdateDelete, checked_seq]
    rfl
  | createGetRotateDelete =>
    simp only [probe, Roles.createGetRotateDelete, checked_seq]
    rfl
  | fullLifecycle =>
    simp only [probe, Roles.fullLifecycle, checked_seq, demandNamed_seq, demand_expectAbsent]
    refine congrArg (fun body => withRole session name (.runs body))
      (congrArg (Probe.bind _) (funext fun response => ?_))
    -- The first reading is checked twice, for its status and for the name in its body.
    dsimp only [Step.fault?]
    cases statusFault? response with
    | some failure => rfl
    | none => rfl

/-! ### Exchanges of steps -/

/-- An exchange of a step in which nothing is wrong. -/
def Passes (session : Session) (name : RoleName) (step : Step) (exchange : Exchange) : Prop :=
  step.request? session name = some exchange.1 ∧ step.faultIn? name exchange = none

/-- Exchanges are those of steps that were tried in their order, up to and including the first at
fault, and with that fault if there is one. -/
inductive Tried (session : Session) (name : RoleName) :
    List Step → List Exchange → Option Failure → Prop
  | all : Tried session name [] [] none
  | stopped {step : Step} {rest : List Step} {exchange : Exchange} {failure : Failure}
      (sends : step.request? session name = some exchange.1)
      (fails : step.faultIn? name exchange = some failure) :
      Tried session name (step :: rest) [exchange] (some failure)
  | passed {step : Step} {rest : List Step} {exchange : Exchange} {later : List Exchange}
      {fault : Option Failure} (passes : Passes session name step exchange)
      (others : Tried session name rest later fault) :
      Tried session name (step :: rest) (exchange :: later) fault

/-- **Nothing went wrong exactly if every step was tried and passed.** -/
theorem tried_none_iff {steps : List Step} {tried : List Exchange} :
    Tried session name steps tried none ↔ List.Forall₂ (Passes session name) steps tried := by
  constructor
  · intro went
    generalize nothing : (none : Option Failure) = fault at went
    induction went with
    | all => exact .nil
    | stopped => cases nothing
    | passed passes _ ih => exact .cons passes (ih nothing)
  · intro passed
    induction passed with
    | nil => exact .all
    | cons passes _ ih => exact .passed passes ih

/-- The exchanges of steps settle what went wrong. -/
theorem tried_unique {steps : List Step} {tried : List Exchange} {fault other : Option Failure}
    (went : Tried session name steps tried fault) (also : Tried session name steps tried other) :
    fault = other := by
  induction went with
  | all =>
    cases also
    rfl
  | stopped sends fails =>
    cases also with
    | stopped _ failsToo => exact fails.symm.trans failsToo
    | passed passes _ => cases fails.symm.trans passes.2
  | passed passes _ ih =>
    cases also with
    | stopped _ fails => cases fails.symm.trans passes.2
    | passed _ others => exact ih others

/-- Every exchange is one of a step. -/
theorem exists_step_of_mem_tried {steps : List Step} {tried : List Exchange}
    {fault : Option Failure} (went : Tried session name steps tried fault) :
    ∀ exchange ∈ tried, ∃ step ∈ steps, step.request? session name = some exchange.1 := by
  induction went with
  | all => exact List.forall_mem_nil _
  | stopped sends _ => exact List.forall_mem_singleton.mpr ⟨_, List.mem_cons_self, sends⟩
  | passed passes _ ih =>
    refine List.forall_mem_cons.mpr ⟨⟨_, List.mem_cons_self, passes.1⟩, fun other member => ?_⟩
    obtain ⟨step, inside, sends⟩ := ih other member
    exact ⟨step, List.mem_cons_of_mem _ inside, sends⟩

/-- **Steps that are followed are tried**, and the probe ends by what went wrong. -/
theorem exists_run_followed (online : session.IsOnline) (name : RoleName) (steps : List Step)
    (service : Service σ) (state : σ) :
    let run := (followed session name steps).run service state
    ∃ fault, Tried session name steps run.exchanges fault ∧ run.ending = ended fault := by
  induction steps generalizing state with
  | nil => exact ⟨none, .all, rfl⟩
  | cons step rest ih =>
    obtain ⟨request, sends⟩ := step.exists_request? online name
    rcases answered : service state request with ⟨delivery, next⟩
    have course := Step.run_call online sends service state
    rw [answered] at course
    rw [followed, Probe.run_seq, course]
    cases delivery with
    | cutShort status causes => exact ⟨_, .stopped sends rfl, rfl⟩
    | dropped causes => exact ⟨_, .stopped sends rfl, rfl⟩
    | replied status body =>
      rw [Session.received, Run.andThen_value]
      cases judged : step.fault? name ⟨request.method, request.url, status, body⟩ with
      | some failure => exact ⟨_, .stopped sends judged, rfl⟩
      | none =>
        obtain ⟨fault, went, ends⟩ := ih next
        exact ⟨fault, .passed ⟨sends, judged⟩ went, ends⟩

/-! ### Exchanges of a cleanup -/

/-- Exchanges are those of a cleanup, with what is wrong with it: the role is read, and if it reads
back it is removed. -/
inductive Cleaned (session : Session) (name : RoleName) : List Exchange → Option Failure → Prop
  | unread {read : Exchange} {failure : Failure}
      (reads : Step.reading.request? session name = some read.1)
      (fails : deliveryFault? (fun _ => none) read = some failure) :
      Cleaned session name [read] (some failure)
  | gone {read : Http.Request} {status : Http.Status} {body : Bytes}
      (reads : Step.reading.request? session name = some read)
      (absent : Http.Response.isAbsent ⟨read.method, read.url, status, body⟩ = true) :
      Cleaned session name [(read, .replied status body)] none
  | removed {read : Http.Request} {status : Http.Status} {body : Bytes} {removal : Exchange}
      (reads : Step.reading.request? session name = some read)
      (present : Http.Response.isAbsent ⟨read.method, read.url, status, body⟩ = false)
      (removes : Step.removal.request? session name = some removal.1) :
      Cleaned session name [(read, .replied status body), removal]
        (deliveryFault? removalFault? removal)

theorem removedEnding_eq (response : Http.Response) :
    removedEnding response = ended (removalFault? response) := by
  rw [removalFault?_eq, statusFault?_eq]
  unfold removedEnding Http.Response.expectOk Http.Response.expectStatus
  by_cases missing : response.status = .notFound
  · rw [if_pos missing, if_pos missing]
    rfl
  · rw [if_neg missing, if_neg missing]
    by_cases fine : response.status = .ok
    · rw [if_pos fine, if_pos fine]
      rfl
    · rw [if_neg fine, if_neg fine]
      rfl

/-- **A removal of a role is such a cleanup**, and ends by what is wrong with it. -/
theorem exists_run_release (online : session.IsOnline) (name : RoleName) (service : Service σ)
    (state : σ) :
    let run := (release session name).run service state
    ∃ fault, Cleaned session name run.exchanges fault ∧ run.ending = ended fault := by
  obtain ⟨-, read, removal, -, reads, removes⟩ := exists_requests online name
  have asksRead : Step.reading.request? session name = some read :=
    (Step.request?_eq online name .reading).trans reads
  have asksRemoval : Step.removal.request? session name = some removal :=
    (Step.request?_eq online name .removal).trans removes
  rcases answered : service state read with ⟨delivery, next⟩
  cases back : readsBack read delivery with
  | false =>
    rw [run_release_of_gone reads answered back]
    cases delivery with
    | cutShort status causes => exact ⟨_, .unread asksRead rfl, rfl⟩
    | dropped causes => exact ⟨_, .unread asksRead rfl, rfl⟩
    | replied status body =>
      refine ⟨none, .gone asksRead ?_, rfl⟩
      simpa [readsBack] using back
  | true =>
    rcases settled : service next removal with ⟨outcome, final⟩
    rw [run_release_of_present reads removes answered back settled]
    cases delivery with
    | cutShort status causes => cases back
    | dropped causes => cases back
    | replied status body =>
      refine ⟨deliveryFault? removalFault? (removal, outcome), .removed asksRead ?_ asksRemoval, ?_⟩
      · simpa [readsBack] using back
      · show (Session.received removal outcome).bind removedEnding = _
        rw [← received_bind_ended]
        exact congrArg (Session.received removal outcome).bind (funext removedEnding_eq)

/-! ### The course of a scenario -/

/-- Exchanges begin with a whole response with status 200. -/
def BeginsCreated (exchanges : List Exchange) : Prop :=
  ∃ request body rest, exchanges = (request, .replied .ok body) :: rest

/-- The scope of a role whose steps and cleanup end by what went wrong with them ends by the first
of these faults. -/
theorem concluded_ended (first second : Option Failure) :
    concluded (ended first) (ended second) = ended (first.or second) := by
  cases first with
  | some failure => rfl
  | none => cases second <;> rfl

/-- **The scope of a role in which steps are followed** tries its creation and then them. What comes
after that is a cleanup if the role was created, and nothing otherwise. -/
theorem exists_run_scope (online : session.IsOnline) (name : RoleName) (steps : List Step)
    (service : Service σ) (state : σ) :
    let run := (withRole session name (.runs (followed session name steps))).run service state
    ∃ tried fault cleanup left, run.exchanges = tried ++ cleanup ∧
      Tried session name (.creation :: steps) tried fault ∧
      (BeginsCreated tried → Cleaned session name cleanup left) ∧
      (¬ BeginsCreated tried → cleanup = [] ∧ left = none) ∧
      run.ending = ended (fault.or left) := by
  obtain ⟨create, read, removal, creates, reads, removes⟩ := exists_requests online name
  have asksCreate : Step.creation.request? session name = some create :=
    (Step.request?_eq online name .creation).trans creates
  rcases answered : service state create with ⟨delivery, next⟩
  by_cases created : ∃ text, delivery = .replied .ok text
  · obtain ⟨text, rfl⟩ := created
    obtain ⟨fault, went, ends⟩ := exists_run_followed online name steps service next
    obtain ⟨left, cleaned, settled⟩ := exists_run_release online name service
      ((followed session name steps).run service next).state
    rw [run_withRole_of_created creates reads removes answered rfl rfl]
    refine ⟨_ :: _, fault, _, left, rfl, .passed ⟨asksCreate, ?_⟩ went, fun _ => cleaned, ?_, ?_⟩
    · show statusFault? ⟨create.method, create.url, .ok, text⟩ = none
      exact if_pos rfl
    · intro refused
      exact absurd ⟨_, _, _, rfl⟩ refused
    · show concluded _ _ = _
      rw [ends, settled, concluded_ended]
  · have refused : ∀ text, delivery ≠ .replied .ok text := fun text same => created ⟨text, same⟩
    have notCreated : ¬ BeginsCreated [(create, delivery)] := by
      rintro ⟨request, body, rest, same⟩
      cases same
      exact created ⟨body, rfl⟩
    rw [run_withRole_of_refused creates answered refused]
    obtain ⟨failure, fails, ends⟩ : ∃ failure,
        deliveryFault? statusFault? (create, delivery) = some failure ∧
        (Session.received create delivery).bind (fun response =>
          .failed (.mismatch (response.mismatch (.status .ok)))) = ended (some failure) := by
      cases delivery with
      | cutShort status causes => exact ⟨_, rfl, rfl⟩
      | dropped causes => exact ⟨_, rfl, rfl⟩
      | replied status body =>
        have other : status ≠ .ok := fun same => refused body (by rw [same])
        exact ⟨_, if_neg other, rfl⟩
    exact ⟨[(create, delivery)], some failure, [], none, rfl, .stopped asksCreate fails,
      fun begins => absurd begins notCreated, fun _ => ⟨rfl, rfl⟩, ends⟩

/-- **Each scenario is the sequence of its steps.** What comes back for its requests is what the
service answers, in their order. They are the requests of the creation and of the documented steps,
up to and including the first at fault, and then, if the creation was answered with 200, those of a
cleanup. The scenario succeeds exactly if every step passed and nothing is wrong with the cleanup,
and otherwise it fails for the first fault. -/
theorem life_follows_steps {text : String} (accepted : Config.baseUrlOf text = .ok session.baseUrl)
    (name : RoleName) (life : Life) (service : Service σ) (state : σ) :
    let run := (life.probe session name).run service state
    Service.Answers service state run.exchanges run.state ∧
    ∃ tried fault cleanup left, run.exchanges = tried ++ cleanup ∧
      Tried session name (.creation :: life.steps) tried fault ∧
      (BeginsCreated tried → Cleaned session name cleanup left) ∧
      (¬ BeginsCreated tried → cleanup = [] ∧ left = none) ∧
      run.ending = ended (fault.or left) ∧
      (run.ending = .value () ↔
        List.Forall₂ (Passes session name) (.creation :: life.steps) tried ∧ left = none) := by
  intro run
  have online := Config.isOnline_of_baseUrlOf accepted
  have course : run =
      (withRole session name (.runs (followed session name life.steps))).run service state := by
    rw [← life.probe_eq]
  obtain ⟨tried, fault, cleanup, left, asked, went, cleaned, nothing, ends⟩ :=
    exists_run_scope online name life.steps service state
  rw [← course] at asked ends
  refine ⟨Probe.answers_run service _ state, tried, fault, cleanup, left, asked, went, cleaned,
    nothing, ends, ?_⟩
  rw [ends, ended_eq_value_iff, Option.or_eq_none_iff]
  refine and_congr_left fun _ => ⟨?_, ?_⟩
  · rintro rfl
    exact tried_none_iff.mp went
  · intro passed
    exact tried_unique went (tried_none_iff.mpr passed)

/-- The mismatch for which a probe fails. -/
def mismatch? : Ending α → Option Http.StatusMismatch
  | .failed (.mismatch found) => some found
  | _ => none

/-- A role of the sample session that is not given a new token, because the service is busy, and one
that is still there after its removal. -/
theorem life_follows_steps_sample :
    let course (life : Life) (deliveries : List Delivery) :=
      (life.probe sampleSession ⟨"role_1"⟩).run Script.service ⟨deliveries, []⟩
    let asked (run : Run Script Unit) :=
      run.requests.map fun request => (request.method.name, request.url.text)
    let role := "http://zo.test:5080/api/default/roles/role_1"
    let named := Utf8.bytesOf (payload ⟨"role_1"⟩).text
    let rotated := course .createGetRotateDelete
      [.replied .ok [], .replied .ok [], .replied ⟨503⟩ (Utf8.bytesOf "busy"),
        .replied .notFound []]
    let kept := course .fullLifecycle
      [.replied .ok [], .replied .ok named, .replied .ok [], .replied .ok [], .replied .ok named,
        .replied .ok named, .replied .ok []]
    (∃ tried fault cleanup left, rotated.exchanges = tried ++ cleanup ∧
      Tried sampleSession ⟨"role_1"⟩ [.creation, .reading, .rotation, .removal] tried fault ∧
      (BeginsCreated tried → Cleaned sampleSession ⟨"role_1"⟩ cleanup left) ∧
      rotated.ending = ended (fault.or left)) ∧
    asked rotated = [("POST", "http://zo.test:5080/api/default/roles"), ("GET", role),
      ("PUT", "http://zo.test:5080/api/default/roles/role_1?rotateToken=true"), ("GET", role)] ∧
    (mismatch? rotated.ending).map Http.StatusMismatch.message =
      some ("PUT http://zo.test:5080/api/default/roles/role_1?rotateToken=true: " ++
        "expected 200 OK, but got 503 Service Unavailable busy") ∧
    asked kept = [("POST", "http://zo.test:5080/api/default/roles"), ("GET", role), ("PUT", role),
      ("DELETE", role), ("GET", role), ("GET", role), ("DELETE", role)] ∧
    (mismatch? kept.ending).map Http.StatusMismatch.message =
      some ("GET http://zo.test:5080/api/default/roles/role_1: " ++
        "expected 404 or an empty body, but got 200 OK \x7b\"name\":\"role_1\"\x7d") := by
  intro course asked role named rotated kept
  refine ⟨?_, by decide +kernel, by decide +kernel, by decide +kernel, by decide +kernel⟩
  obtain ⟨-, tried, fault, cleanup, left, exchanged, went, cleaned, -, ends, -⟩ :=
    life_follows_steps baseUrlOf_sampleSession ⟨"role_1"⟩ .createGetRotateDelete Script.service _
  exact ⟨tried, fault, cleanup, left, exchanged, went, cleaned, ends⟩

end LogProbe.Roles
