/-
**Roles that may be left behind.** The end of a scope is silent if nothing was logged about an
orphaned role and the scope does not fail for its own cleanup. A silent end should show that the
role is gone. It does, but for one reply and one panic: a reading that is refused with an error
status other than 404 counts as an absence, and the role is neither removed nor reported; and a body
that panics when it is called ends its scope before there is any cleanup.

* `Roles.IsSilent`, `Roles.ShowsGone`, `Roles.ReadRefused` — silence, evidence, and the reply.
* `Roles.release_done_iff` — the cleanup succeeds on evidence, and also after a refused reading.
* `Roles.silent_without_evidence_iff` — a silent end lacks evidence exactly after a refused reading
  and after such a panic.
* `Roles.release_on_refused` — what happens to the role then: nothing.
-/

import LogProbe.Proofs.Http.Absence
import LogProbe.Proofs.Roles.Lifetime

namespace LogProbe

/-- A line that warns of an orphaned role. -/
def LogLine.WarnsOfOrphan (line : LogLine) : Prop :=
  line.level = .warn ∧ "may be orphaned".toList <:+: line.text.toList

namespace Roles

variable {σ α : Type} {session : Session} {name : RoleName}

/-! ### Silence and evidence -/

/-- No line of a log warns of an orphaned role. -/
def IsQuiet (log : List LogLine) : Prop := ∀ line ∈ log, ¬ line.WarnsOfOrphan

/-- A scope whose body ended as `inner` is silent: its log is quiet, and it does not fail where its
body has a value. -/
def IsSilent (inner : Ending α) (run : Run σ α) : Prop :=
  IsQuiet run.log ∧ ¬ ((∃ value, inner = .value value) ∧ ∃ failure, run.ending = .failed failure)

/-- A reading that shows that the role is gone: the status is 404, or a success with a body that
holds nothing. -/
def ReadingShowsGone : Delivery → Prop
  | .replied status body =>
    status = .notFound ∨ (status.isSuccess = true ∧ Http.HoldsNothing body)
  | .cutShort _ _ => False
  | .dropped _ => False

/-- A removal that shows that the role is gone: the status is 200 or 404. -/
def RemovalShowsGone : Delivery → Prop
  | .replied status _ => status = .ok ∨ status = .notFound
  | .cutShort _ _ => False
  | .dropped _ => False

/-- Evidence, in the exchanges of a cleanup, that the role is gone. -/
def ShowsGone (cleanup : List Exchange) : Prop :=
  ∃ exchange ∈ cleanup, (exchange.1.method = .get ∧ ReadingShowsGone exchange.2) ∨
    (exchange.1.method = .delete ∧ RemovalShowsGone exchange.2)

/-- A delivery that refuses a reading: its status is neither a success nor 404. -/
def Refuses : Delivery → Prop
  | .replied status _ => status.isSuccess = false ∧ status ≠ .notFound
  | .cutShort _ _ => False
  | .dropped _ => False

/-- A reading was refused in the exchanges of a cleanup. -/
def ReadRefused (cleanup : List Exchange) : Prop :=
  ∃ exchange ∈ cleanup, exchange.1.method = .get ∧ Refuses exchange.2

theorem isQuiet_append {first second : List LogLine} :
    IsQuiet (first ++ second) ↔ IsQuiet first ∧ IsQuiet second :=
  List.forall_mem_append

theorem isQuiet_of_level {log : List LogLine} (calm : ∀ line ∈ log, line.level ≠ .warn) :
    IsQuiet log :=
  fun line member warns => calm line member warns.1

/-- The line about a role that may be left behind is a warning. -/
theorem warnsOfOrphan_orphanLine (name : RoleName) (circumstance : String) (failure : Failure) :
    (orphanLine name circumstance failure).WarnsOfOrphan := by
  refine ⟨rfl, "Role ".toList ++ name.text.toList ++ " ".toList,
    circumstance.toList ++ ": ".toList ++ failure.line.toList, ?_⟩
  simp [orphanLine, toString]

/-! ### The cleanup -/

/-- A response to a reading that does not read back was refused or shows that the role is gone. -/
theorem readsBack_replied (read : Http.Request) (status : Http.Status) (body : Bytes) :
    readsBack read (.replied status body) = false ↔
      ReadingShowsGone (.replied status body) ∨ Refuses (.replied status body) := by
  have absent := Http.Response.isAbsent_iff ⟨read.method, read.url, status, body⟩
  have missing : Http.Status.notFound.isSuccess = false := by decide
  simp only [readsBack, Bool.not_eq_false', absent, ReadingShowsGone, Refuses]
  by_cases found : status = .notFound
  · simp [found, missing]
  · cases success : status.isSuccess with
    | false => simp [found]
    | true => simp [found]

/-- A refused reading shows nothing. -/
theorem not_readingShowsGone_of_refuses {delivery : Delivery} (refused : Refuses delivery) :
    ¬ ReadingShowsGone delivery := by
  cases delivery with
  | cutShort status causes => exact fun shown => shown
  | dropped causes => exact fun shown => shown
  | replied status body =>
    obtain ⟨failed, other⟩ := refused
    rintro (missing | ⟨success, -⟩)
    · exact other missing
    · rw [failed] at success
      cases success

section Cleanup

variable {read removal : Http.Request} (reads : readRequest? session name = some read)
  (removes : removalRequest? session name = some removal) {service : Service σ} {state : σ}

include reads in
theorem showsGone_reading (delivery : Delivery) :
    (ShowsGone [(read, delivery)] ↔ ReadingShowsGone delivery) ∧
      (ReadRefused [(read, delivery)] ↔ Refuses delivery) := by
  have method : read.method = .get := (Session.parts_of_requestFor? reads).1
  have other : Http.Method.get ≠ .delete := by decide
  constructor
  · simp [ShowsGone, method, other]
  · simp [ReadRefused, method]

include reads removes in
theorem showsGone_reading_removal {delivery : Delivery} (present : readsBack read delivery = true)
    (outcome : Delivery) :
    (ShowsGone [(read, delivery), (removal, outcome)] ↔ RemovalShowsGone outcome) ∧
      ¬ ReadRefused [(read, delivery), (removal, outcome)] := by
  have getter : read.method = .get := (Session.parts_of_requestFor? reads).1
  have deleter : removal.method = .delete := (Session.parts_of_requestFor? removes).1
  have other : Http.Method.get ≠ .delete := by decide
  have nothing : ¬ (ReadingShowsGone delivery ∨ Refuses delivery) := by
    cases delivery with
    | cutShort status causes => cases present
    | dropped causes => cases present
    | replied status body =>
      rw [← readsBack_replied read, present]
      nofun
  obtain ⟨unseen, unrefused⟩ := not_or.mp nothing
  constructor
  · simp [ShowsGone, getter, deleter, other, other.symm, unseen]
  · simp [ReadRefused, getter, deleter, other.symm, unrefused]

theorem removedEnding_done_iff (response : Http.Response) :
    (∃ done, removedEnding response = .value done) ↔
      response.status = .ok ∨ response.status = .notFound := by
  unfold removedEnding Http.Response.expectOk Http.Response.expectStatus
  by_cases missing : response.status = .notFound
  · simp [missing]
  · by_cases fine : response.status = .ok
    · simp [fine, Probe.demanded, Ending.map, Ending.bind]
    · simp [missing, fine, Probe.demanded, Ending.map, Ending.bind]

include reads removes in
/-- **A cleanup succeeds on evidence, and also after a refused reading.** -/
theorem release_done_iff {cleanup : Run σ Unit}
    (after : (release session name).run service state = cleanup) :
    (∃ done, cleanup.ending = .value done) ↔
      ShowsGone cleanup.exchanges ∨ ReadRefused cleanup.exchanges := by
  rcases answered : service state read with ⟨delivery, next⟩
  cases back : readsBack read delivery with
  | false =>
    obtain ⟨shown, refused⟩ := showsGone_reading reads delivery
    rw [← after, run_release_of_gone reads answered back, shown, refused]
    cases delivery with
    | replied status body =>
      exact ⟨fun _ => (readsBack_replied _ _ _).mp back, fun _ => ⟨(), rfl⟩⟩
    | cutShort status causes =>
      simp [Session.received, Ending.map, Ending.bind, ReadingShowsGone, Refuses]
    | dropped causes =>
      simp [Session.received, Ending.map, Ending.bind, ReadingShowsGone, Refuses]
  | true =>
    rcases settled : service next removal with ⟨outcome, final⟩
    obtain ⟨shown, refused⟩ := showsGone_reading_removal reads removes back outcome
    rw [← after, run_release_of_present reads removes answered back settled, shown]
    simp only [refused, or_false]
    cases outcome with
    | replied status body => exact removedEnding_done_iff _
    | cutShort status causes => simp [Session.received, Ending.bind, RemovalShowsGone]
    | dropped causes => simp [Session.received, Ending.bind, RemovalShowsGone]

theorem level_receivedLog (request : Http.Request) (delivery : Delivery) :
    ∀ line ∈ Session.receivedLog request delivery, line.level ≠ .warn := by
  cases delivery <;> simp [Session.receivedLog]

include reads removes in
/-- A cleanup logs no warning. -/
theorem level_release {cleanup : Run σ Unit}
    (after : (release session name).run service state = cleanup) :
    ∀ line ∈ cleanup.log, line.level ≠ .warn := by
  rcases answered : service state read with ⟨delivery, next⟩
  cases back : readsBack read delivery with
  | false =>
    rw [← after, run_release_of_gone reads answered back]
    refine List.forall_mem_append.mpr ⟨level_receivedLog _ _, ?_⟩
    cases delivery <;> simp [goneLog]
  | true =>
    rcases settled : service next removal with ⟨outcome, final⟩
    rw [← after, run_release_of_present reads removes answered back settled]
    refine List.forall_mem_append.mpr ⟨List.forall_mem_append.mpr ⟨level_receivedLog _ _,
      level_receivedLog _ _⟩, ?_⟩
    cases outcome with
    | replied status body =>
      simp only [settledLog, removedLog]
      split
      · simp
      · split
        · simp
        · simp
    | cutShort status causes => exact List.forall_mem_nil _
    | dropped causes => exact List.forall_mem_nil _

include reads removes in
/-- **After a refused reading nothing happens to the role.** It is not asked to be removed, the
cleanup succeeds all the same, and there is no evidence. -/
theorem release_on_refused {cleanup : Run σ Unit}
    (after : (release session name).run service state = cleanup)
    (refused : ReadRefused cleanup.exchanges) :
    cleanup.exchanges = [(read, (service state read).1)] ∧ cleanup.ending = .value () ∧
      ¬ ShowsGone cleanup.exchanges := by
  rcases answered : service state read with ⟨delivery, next⟩
  cases back : readsBack read delivery with
  | false =>
    obtain ⟨shown, refusedIff⟩ := showsGone_reading reads delivery
    rw [← after, run_release_of_gone reads answered back] at refused ⊢
    have refuses : Refuses delivery := refusedIff.mp refused
    refine ⟨rfl, ?_, fun evidence => not_readingShowsGone_of_refuses refuses (shown.mp evidence)⟩
    cases delivery with
    | replied status body => rfl
    | cutShort status causes => cases refuses
    | dropped causes => cases refuses
  | true =>
    rcases settled : service next removal with ⟨outcome, final⟩
    obtain ⟨-, unrefused⟩ := showsGone_reading_removal reads removes back outcome
    rw [← after, run_release_of_present reads removes answered back settled] at refused
    exact absurd refused unrefused

end Cleanup

/-! ### The end of a scope -/

/-- A removal that fails is told: by the ending of the scope where the body has a value, and by a
line of the log otherwise. -/
theorem removal_done_iff (name : RoleName) (inner : Ending α) {removal : Ending Unit}
    (calm : ∀ text, removal ≠ .panicked text) :
    (IsQuiet (orphanLog name inner removal) ∧
        ¬ ((∃ value, inner = .value value) ∧
          ∃ failure, concluded inner removal = .failed failure)) ↔
      ∃ done, removal = .value done := by
  cases removal with
  | value done =>
    obtain ⟨kept, silent⟩ := concluded_value name inner done
    rw [kept, silent]
    refine ⟨fun _ => ⟨done, rfl⟩, fun _ => ⟨isQuiet_of_level (List.forall_mem_nil _), ?_⟩⟩
    rintro ⟨⟨value, valued⟩, failure, failed⟩
    rw [valued] at failed
    cases failed
  | failed failure =>
    constructor
    · rintro ⟨quiet, own⟩
      cases inner with
      | value value => exact absurd ⟨⟨value, rfl⟩, failure, rfl⟩ own
      | failed cause =>
        exact absurd (warnsOfOrphan_orphanLine name "" failure) (quiet _ List.mem_cons_self)
      | panicked cause =>
        exact absurd (warnsOfOrphan_orphanLine name " after a panic" failure)
          (quiet _ List.mem_cons_self)
    · rintro ⟨done, valued⟩
      cases valued
  | panicked text => exact absurd rfl (calm text)

/-- **A scope is silent exactly if its cleanup succeeds and its body is quiet.** -/
theorem isSilent_withRole_iff {create read removal : Http.Request}
    (creates : createRequest? session name = some create)
    (reads : readRequest? session name = some read)
    (removes : removalRequest? session name = some removal) {service : Service σ}
    {state next : σ} {text : Bytes} (answered : service state create = (.replied .ok text, next))
    {body : Probe α} {inner : Run σ α} (inside : body.run service next = inner)
    {cleanup : Run σ Unit} (after : (release session name).run service inner.state = cleanup) :
    IsSilent inner.ending ((withRole session name (.runs body)).run service state) ↔
      (∃ done, cleanup.ending = .value done) ∧ IsQuiet inner.log := by
  have course := run_withRole_of_created creates reads removes answered inside after
  have calm := release_ne_panicked reads removes service inner.state
  rw [after] at calm
  have created : IsQuiet (Session.receivedLog create (.replied .ok text)) ∧
      IsQuiet [createdLine name] :=
    ⟨isQuiet_of_level (level_receivedLog _ _), isQuiet_of_level (by simp [createdLine])⟩
  have settled : IsQuiet cleanup.log := isQuiet_of_level (level_release reads removes after)
  have quiet : IsQuiet ((withRole session name (.runs body)).run service state).log ↔
      IsQuiet inner.log ∧ IsQuiet (orphanLog name inner.ending cleanup.ending) := by
    rw [course, List.append_cons]
    simp only [isQuiet_append, created, settled, true_and, and_true]
  unfold IsSilent
  rw [quiet, course, and_assoc, removal_done_iff name inner.ending calm, and_comm]

/-- A body that starts leaves its role behind in silence exactly if the reading after it is refused
and its own log is quiet. -/
theorem silent_without_evidence_of_runs {create : Http.Request}
    (creates : createRequest? session name = some create) {service : Service σ} {state : σ}
    {text : Bytes} (created : (service state create).1 = .replied .ok text) (body : Probe α) :
    let run := (withRole session name (.runs body)).run service state
    let inner := body.run service (service state create).2
    ∃ cleanup, run.exchanges = (create, .replied .ok text) :: (inner.exchanges ++ cleanup) ∧
      (IsSilent inner.ending run ∧ ¬ ShowsGone cleanup ↔
        ReadRefused cleanup ∧ IsQuiet inner.log) ∧
      (ReadRefused cleanup → run.ending = inner.ending ∧
        ∀ exchange ∈ cleanup, exchange.1.method ≠ .delete) := by
  intro run inner
  obtain ⟨-, read, removal, -, reads, removes⟩ :=
    exists_requests (Session.isOnline_of_requestFor? creates) name
  have getter : read.method = .get := (Session.parts_of_requestFor? reads).1
  have delivered : service state create = (.replied .ok text, (service state create).2) :=
    Prod.ext created rfl
  obtain ⟨cleanup, after⟩ : ∃ cleanup, (release session name).run service inner.state = cleanup :=
    ⟨_, rfl⟩
  have inside : body.run service (service state create).2 = inner := rfl
  have course : run = _ := run_withRole_of_created creates reads removes delivered inside after
  have silent : IsSilent inner.ending run ↔ _ :=
    isSilent_withRole_iff creates reads removes delivered inside after
  have refused := release_on_refused reads removes after
  refine ⟨cleanup.exchanges, by rw [course], ?_, ?_⟩
  · rw [silent, release_done_iff reads removes after]
    constructor
    · rintro ⟨⟨shown | refuses, calm⟩, nothing⟩
      · exact absurd shown nothing
      · exact ⟨refuses, calm⟩
    · rintro ⟨refuses, calm⟩
      exact ⟨⟨.inr refuses, calm⟩, (refused refuses).2.2⟩
  · intro refuses
    obtain ⟨asked, valued, -⟩ := refused refuses
    constructor
    · rw [course, valued]
      exact (concluded_value name inner.ending ()).1
    · rw [asked]
      have other : Http.Method.get ≠ .delete := by decide
      simpa [getter] using other

/-- The scope of a body that panics when it is called is silent if what the call logs is quiet. -/
theorem isSilent_withRole_panics_iff {create : Http.Request}
    (creates : createRequest? session name = some create) {service : Service σ} {state : σ}
    {text : Bytes} (created : (service state create).1 = .replied .ok text) (log : List LogLine)
    (payload : String) :
    IsSilent (.panicked payload : Ending α)
        ((withRole session name (.panics log payload : Body α)).run service state) ↔
      IsQuiet log := by
  have answered : service state create = (.replied .ok text, (service state create).2) :=
    Prod.ext created rfl
  have opening : IsQuiet (Session.receivedLog create (.replied .ok text)) ∧
      IsQuiet [createdLine name] :=
    ⟨isQuiet_of_level (level_receivedLog _ _), isQuiet_of_level (by simp [createdLine])⟩
  have noValue (value : α) : (.panicked payload : Ending α) ≠ .value value := by
    intro same
    cases same
  unfold IsSilent
  rw [run_withRole_of_panics creates answered, List.append_cons]
  simp only [isQuiet_append, opening, noValue, true_and, exists_false, false_and, not_false_eq_true,
    and_true]

/-- **When a role may be left behind in silence.** A scope whose role was created ends silently and
without evidence that the role is gone exactly if the body logged no such warning itself and either
the reading after the body was refused or the call of the body panicked. After a refused reading the
scope ends as its body did, and no removal was asked for; after a panic of the call it ends with
that panic, and nothing more was asked for at all. -/
theorem silent_without_evidence_iff {create : Http.Request}
    (creates : createRequest? session name = some create) {service : Service σ} {state : σ}
    {text : Bytes} (answered : (service state create).1 = .replied .ok text) (body : Body α) :
    let run := (withRole session name body).run service state
    let inner := body.run service (service state create).2
    ∃ cleanup, run.exchanges = (create, .replied .ok text) :: (inner.exchanges ++ cleanup) ∧
      (IsSilent inner.ending run ∧ ¬ ShowsGone cleanup ↔
        (ReadRefused cleanup ∨ ¬ body.Starts) ∧ IsQuiet inner.log) ∧
      (ReadRefused cleanup → run.ending = inner.ending ∧
        ∀ exchange ∈ cleanup, exchange.1.method ≠ .delete) ∧
      ∀ log payload, body = .panics log payload →
        cleanup = [] ∧ run.exchanges = [(create, .replied .ok text)] ∧
          run.ending = .panicked payload := by
  intro run inner
  cases body with
  | runs probe =>
    obtain ⟨cleanup, asked, silent, refused⟩ :=
      silent_without_evidence_of_runs creates answered probe
    have started : ¬ ¬ (Body.runs probe).Starts := not_not.mpr (Body.starts_runs probe)
    exact ⟨cleanup, asked, silent.trans (and_congr_left' (or_iff_left started).symm), refused,
      nofun⟩
  | panics log payload =>
    obtain ⟨alone, -, ends⟩ : run.exchanges = _ ∧ _ ∧ run.ending = _ :=
      exchanges_withRole_of_panics creates answered log payload
    have course : inner = ⟨.panicked payload, [], log, (service state create).2⟩ :=
      Body.run_panics service log payload _
    have silent : IsSilent inner.ending run ↔ IsQuiet inner.log := by
      rw [course]
      exact isSilent_withRole_panics_iff creates answered log payload
    refine ⟨[], by rw [alone, course]; rfl, ?_, ?_, ?_⟩
    · rw [silent]
      simp [ShowsGone, Body.not_starts_panics]
    · rintro ⟨exchange, inside, -⟩
      exact nomatch inside
    · rintro _ _ ⟨⟩
      exact ⟨rfl, alone, ends⟩

/-- The replies to a creation and to a reading that is refused with status 500. -/
def refusedReading : Script := ⟨[.replied .ok [], .replied ⟨500⟩ [], .replied .ok []], []⟩

/-- The scope of a role of the sample session with these replies. -/
theorem silent_without_evidence_iff_sample :
    let run :=
      (withRole sampleSession ⟨"role_1"⟩ (.runs (pure ()))).run Script.service refusedReading
    ∃ create, createRequest? sampleSession ⟨"role_1"⟩ = some create ∧
      ∃ cleanup, run.exchanges = (create, .replied .ok []) :: ([] ++ cleanup) ∧
        (IsSilent (.value ()) run ∧ ¬ ShowsGone cleanup ↔ ReadRefused cleanup ∧ IsQuiet []) ∧
        (ReadRefused cleanup → run.ending = .value () ∧
          ∀ exchange ∈ cleanup, exchange.1.method ≠ .delete) := by
  intro run
  obtain ⟨create, -, -, creates, -, -⟩ := exists_requests isOnline_sampleSession ⟨"role_1"⟩
  have answered : (Script.service refusedReading create).1 = .replied .ok [] := rfl
  obtain ⟨cleanup, asked, silent, refused, -⟩ :=
    silent_without_evidence_iff creates answered (.runs (pure ()))
  have started : ¬ ¬ (Body.runs (pure () : Probe Unit)).Starts := not_not.mpr (Body.starts_runs _)
  exact ⟨create, creates, cleanup, asked, silent.trans (and_congr_left' (or_iff_left started)),
    refused⟩

/-- **A role left behind in silence.** With these replies the role is created, not removed, and
neither the log nor the ending tells. -/
theorem silent_without_evidence_on_500 :
    let run :=
      (withRole sampleSession ⟨"role_1"⟩ (.runs (pure ()))).run Script.service refusedReading
    ∃ create read, createRequest? sampleSession ⟨"role_1"⟩ = some create ∧
      readRequest? sampleSession ⟨"role_1"⟩ = some read ∧
      run.exchanges = [(create, .replied .ok []), (read, .replied ⟨500⟩ [])] ∧
      run.ending = .value () ∧ IsSilent (.value ()) run ∧
      ¬ ShowsGone [(read, .replied ⟨500⟩ [])] := by
  intro run
  obtain ⟨create, read, removal, creates, reads, removes⟩ :=
    exists_requests isOnline_sampleSession ⟨"role_1"⟩
  let left : Script := ⟨[.replied ⟨500⟩ [], .replied .ok []], [create]⟩
  have created : Script.service refusedReading create = (.replied .ok [], left) := rfl
  have inside : (pure () : Probe Unit).run Script.service left = ⟨.value (), [], [], left⟩ := rfl
  have after : (release sampleSession ⟨"role_1"⟩).run Script.service left = _ :=
    run_release_of_gone reads rfl rfl
  have course : run = _ := run_withRole_of_created creates reads removes created inside after
  have silent := (isSilent_withRole_iff creates reads removes created inside after).mpr
    ⟨⟨(), rfl⟩, nofun⟩
  refine ⟨create, read, creates, reads, by rw [course]; rfl, by rw [course]; rfl, silent, ?_⟩
  rw [(showsGone_reading reads _).1]
  exact not_readingShowsGone_of_refuses ⟨by decide, by decide⟩

end Roles

end LogProbe
