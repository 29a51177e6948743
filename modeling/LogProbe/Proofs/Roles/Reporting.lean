/-
**What a scope reports.** Neither the body of a scope nor its cleanup can fail unnoticed. A panic
and a failure of the body are those of the scope, and a cleanup that fails after them is told by one
warning; a cleanup that fails after a value is the failure of the scope, without a warning.

* `warnings` — the lines of a log that warn.
* `Roles.FailsCleanup` — the exchanges for which a cleanup fails, with the failure and its text
  spelled out in `Roles.cleanupFailure` and `Roles.cleanupFailureText`.
* `Roles.exists_failing_of_cleaned` — a cleanup fails for at most one exchange.
* `Roles.warnings_withRole` — a scope warns of its cleanup, and of nothing else.
* `Roles.scope_reports_every_failure` — the law.
-/

import LogProbe.Proofs.Roles.Acquisition
import LogProbe.Proofs.Roles.Orphan
import LogProbe.Proofs.Roles.Sequence

namespace LogProbe

/-! ### Warnings -/

/-- The lines of a log that warn. -/
def warnings (log : List LogLine) : List LogLine := log.filter fun line => line.level = .warn

theorem warnings_append (first second : List LogLine) :
    warnings (first ++ second) = warnings first ++ warnings second :=
  List.filter_append ..

theorem warnings_eq_nil {log : List LogLine} (calm : ∀ line ∈ log, line.level ≠ .warn) :
    warnings log = [] := by
  simpa [warnings, List.filter_eq_nil_iff] using calm

namespace Roles

variable {σ α : Type} {session : Session} {name : RoleName}

/-! ### Cleanups that fail -/

/-- A cleanup fails for an exchange: no whole response came back, or a removal was answered with
neither 200 nor 404. -/
def FailsCleanup : Exchange → Prop
  | (request, .replied status _) =>
    request.method = .delete ∧ status ≠ ⟨200⟩ ∧ status ≠ ⟨404⟩
  | (_, .cutShort _ _) => True
  | (_, .dropped _) => True

/-- The failure of a cleanup that fails for an exchange. -/
def cleanupFailure : Exchange → Failure
  | (request, .replied status body) => .mismatch {
      method := request.method
      url := request.url
      expected := .status ⟨200⟩
      actual := status
      body := String.ofList (Utf8.decodeLossy body) }
  | (request, .cutShort _ causes) => .transport (.cutShort request.method request.url causes)
  | (request, .dropped causes) => .transport (.unanswered request.method request.url causes)

/-- This failure in one line: the request, what came back for it, and what the client library says
where that is no whole response. -/
def cleanupFailureText : Exchange → String
  | (request, .replied status body) =>
    let text := String.ofList (Utf8.decodeLossy body)
    s!"{request.method.name} {request.url.text}: expected 200 OK, but got {status.shown} {text}"
  | (request, .cutShort _ causes) =>
    ": ".intercalate
      (s!"{request.method.name} {request.url.text}: failed to read response body" :: causes)
  | (request, .dropped causes) =>
    ": ".intercalate (s!"{request.method.name} {request.url.text} failed" :: causes)

theorem line_cleanupFailure (exchange : Exchange) :
    (cleanupFailure exchange).line = cleanupFailureText exchange := by
  obtain ⟨request, ⟨status, body⟩ | ⟨status, causes⟩ | causes⟩ := exchange
  · have expected : (Http.Expected.status ⟨200⟩).shown = "200 OK" := by decide
    have joined : ": expected 200 OK, but got " = ": expected 200 OK, " ++ "but got " := by decide
    show Http.StatusMismatch.message _ = _
    simp [Http.StatusMismatch.message, cleanupFailureText, expected, String.append_assoc, toString]
    rw [← String.append_assoc, ← joined]
  · rfl
  · rfl

/-- The line about a role that may be left behind, for a cleanup that fails for an exchange. -/
theorem orphanLine_cleanupFailure (name : RoleName) (circumstance : String) (exchange : Exchange) :
    orphanLine name circumstance (cleanupFailure exchange) =
      ⟨.warn,
        s!"Role {name.text} may be orphaned{circumstance}: {cleanupFailureText exchange}"⟩ := by
  unfold orphanLine
  rw [line_cleanupFailure]

/-- What is wrong with the response to a removal is that the cleanup fails for it. -/
theorem deliveryFault?_removal {removal : Exchange} (deletes : removal.1.method = .delete) :
    (FailsCleanup removal ∧ deliveryFault? removalFault? removal = some (cleanupFailure removal)) ∨
      (¬ FailsCleanup removal ∧ deliveryFault? removalFault? removal = none) := by
  obtain ⟨request, ⟨status, body⟩ | ⟨status, causes⟩ | causes⟩ := removal
  · by_cases missing : status = ⟨404⟩
    · exact .inr ⟨fun failed => failed.2.2 missing, if_pos missing⟩
    · by_cases fine : status = ⟨200⟩
      · exact .inr ⟨fun failed => failed.2.1 fine, (if_neg missing).trans (if_pos fine)⟩
      · exact .inl ⟨⟨deletes, fine, missing⟩, (if_neg missing).trans (if_neg fine)⟩
  · exact .inl ⟨trivial, rfl⟩
  · exact .inl ⟨trivial, rfl⟩

/-- **A cleanup fails for one exchange at most**, and with the failure of that exchange. -/
theorem exists_failing_of_cleaned {cleanup : List Exchange} {fault : Option Failure}
    (cleaned : Cleaned session name cleanup fault) :
    ∃ failing : Option Exchange, fault = failing.map cleanupFailure ∧
      ∀ exchange, exchange ∈ failing ↔ exchange ∈ cleanup ∧ FailsCleanup exchange := by
  have reading {read : Http.Request} (reads : Step.reading.request? session name = some read)
      (status : Http.Status) (body : Bytes) : ¬ FailsCleanup (read, .replied status body) := by
    obtain ⟨place, -, rfl⟩ := Option.map_eq_some_iff.mp reads
    rintro ⟨removal, -⟩
    exact absurd (show Http.Method.get = .delete from removal) (by decide)
  cases cleaned with
  | @unread read failure reads fails =>
    obtain ⟨failed, same⟩ : FailsCleanup read ∧ failure = cleanupFailure read := by
      obtain ⟨request, _ | _ | _⟩ := read
      · cases fails
      · cases fails
        exact ⟨trivial, rfl⟩
      · cases fails
        exact ⟨trivial, rfl⟩
    refine ⟨some read, by rw [same]; rfl, fun exchange => ?_⟩
    rw [Option.mem_some_iff, List.mem_singleton]
    exact ⟨fun own => ⟨own.symm, own ▸ failed⟩, fun own => own.1.symm⟩
  | gone reads absent =>
    refine ⟨none, rfl, fun exchange => ⟨nofun, ?_⟩⟩
    rintro ⟨member, failed⟩
    rw [List.mem_singleton.mp member] at failed
    exact absurd failed (reading reads _ _)
  | @removed read status body removal reads present removes =>
    obtain ⟨place, -, asked⟩ := Option.map_eq_some_iff.mp removes
    have deletes : removal.1.method = .delete := by rw [← asked]; rfl
    have only (exchange : Exchange) :
        exchange ∈ [(read, .replied status body), removal] ∧ FailsCleanup exchange ↔
          exchange = removal ∧ FailsCleanup removal := by
      constructor
      · rintro ⟨member, failed⟩
        rcases List.mem_cons.mp member with rfl | member
        · exact absurd failed (reading reads _ _)
        · cases List.mem_singleton.mp member
          exact ⟨rfl, failed⟩
      · rintro ⟨rfl, failed⟩
        exact ⟨List.mem_cons_of_mem _ List.mem_cons_self, failed⟩
    rcases deliveryFault?_removal deletes with ⟨failed, fault⟩ | ⟨passed, fault⟩
    · refine ⟨some removal, fault, fun exchange => ?_⟩
      rw [only, Option.mem_some_iff]
      exact ⟨fun own => ⟨own.symm, failed⟩, fun own => own.1.symm⟩
    · refine ⟨none, fault, fun exchange => ?_⟩
      rw [only]
      exact ⟨nofun, fun own => absurd own.2 passed⟩

/-! ### Warnings of a scope -/

theorem warnings_orphanLog (name : RoleName) (inner : Ending α) (removal : Ending Unit) :
    warnings (orphanLog name inner removal) = orphanLog name inner removal := by
  cases inner <;> cases removal <;> rfl

/-- **A scope warns of its cleanup and of nothing else**, besides what its body warns of. -/
theorem warnings_withRole {create read removal : Http.Request}
    (creates : createRequest? session name = some create)
    (reads : readRequest? session name = some read)
    (removes : removalRequest? session name = some removal) {service : Service σ}
    {state next : σ} {text : Bytes} (answered : service state create = (.replied .ok text, next))
    {body : Probe α} {inner : Run σ α} (inside : body.run service next = inner)
    {cleanup : Run σ Unit} (after : (release session name).run service inner.state = cleanup) :
    warnings ((withRole session name (.runs body)).run service state).log =
      warnings inner.log ++ orphanLog name inner.ending cleanup.ending := by
  have created : warnings [createdLine name] = [] := rfl
  rw [run_withRole_of_created creates reads removes answered inside after, List.append_cons]
  simp only [warnings_append, created, warnings_orphanLog, warnings_eq_nil (level_receivedLog _ _),
    warnings_eq_nil (level_release reads removes after), List.nil_append, List.append_nil]

/-- A scope whose body panics when it is called has no warnings of its own. -/
theorem warnings_withRole_panics {create : Http.Request}
    (creates : createRequest? session name = some create) {service : Service σ} {state next : σ}
    {text : Bytes} (answered : service state create = (.replied .ok text, next))
    (log : List LogLine) (payload : String) :
    warnings ((withRole session name (.panics log payload : Body α)).run service state).log =
      warnings log := by
  have created : warnings [createdLine name] = [] := rfl
  rw [run_withRole_of_panics creates answered, List.append_cons]
  simp only [warnings_append, created, warnings_eq_nil (level_receivedLog _ _), List.nil_append]

/-! ### The law -/

/-- **A scope reports every failure**, once the creation of its role was answered with the status
200. If the response came whole, a panic of the body is a panic of the scope with the same text, a
failure of the body is its failure, and a value of the body is its value, unless the cleanup fails:
then the failure of the cleanup is that of the scope. After a panic and after a failure, a cleanup
that fails is told by one warning with the name of the role and the failure. The scope logs no other
warnings. A body that panics when it is called has no cleanup, and so no warning of one. A creation
that is cut short is the failure of the scope, and nothing else is done. -/
theorem scope_reports_every_failure {create : Http.Request}
    (creates : createRequest? session name = some create) (service : Service σ) (state : σ)
    (body : Body α) :
    let inner := body.run service (service state create).2
    let run := (withRole session name body).run service state
    (∀ text, (service state create).1 = .replied .ok text →
      ∃ (cleanup : List Exchange) (failing : Option Exchange),
        run.exchanges = (create, .replied .ok text) :: (inner.exchanges ++ cleanup) ∧
        (body.Starts → Cleaned session name cleanup (failing.map cleanupFailure)) ∧
        (¬ body.Starts → cleanup = []) ∧
        (∀ exchange, exchange ∈ failing ↔ exchange ∈ cleanup ∧ FailsCleanup exchange) ∧
        (∀ payload, inner.ending = .panicked payload → run.ending = .panicked payload ∧
          warnings run.log = warnings inner.log ++ failing.toList.map fun exchange =>
            ⟨.warn, s!"Role {name.text} may be orphaned after a panic: " ++
              cleanupFailureText exchange⟩) ∧
        (∀ failure, inner.ending = .failed failure → run.ending = .failed failure ∧
          warnings run.log = warnings inner.log ++ failing.toList.map fun exchange =>
            ⟨.warn, s!"Role {name.text} may be orphaned: " ++ cleanupFailureText exchange⟩) ∧
        (∀ value, inner.ending = .value value →
          run.ending =
            failing.elim (.value value) (fun exchange => .failed (cleanupFailure exchange)) ∧
          warnings run.log = warnings inner.log)) ∧
    ∀ causes, (service state create).1 = .cutShort .ok causes →
      run.exchanges = [(create, .cutShort .ok causes)] ∧ warnings run.log = [] ∧
      run.ending = .failed (.transport (.cutShort create.method create.url causes)) := by
  intro inner run
  constructor
  · intro text created
    have online := Session.isOnline_of_requestFor? creates
    obtain ⟨-, read, removal, -, reads, removes⟩ := exists_requests online name
    have answered : service state create = (.replied .ok text, (service state create).2) :=
      Prod.ext created rfl
    cases body with
    | panics log payload =>
      have course : run = _ := run_withRole_of_panics creates answered log payload
      have warned : warnings run.log = _ := warnings_withRole_panics creates answered log payload
      have inside : inner = _ := Body.run_panics service log payload _
      rw [inside]
      refine ⟨[], none, by rw [course]; rfl, fun starts => ?_, fun _ => rfl, ?_, ?_, nofun, nofun⟩
      · exact absurd starts (Body.not_starts_panics log payload)
      · exact fun exchange => ⟨nofun, fun own => nomatch own.1⟩
      · rintro _ ⟨⟩
        exact ⟨by rw [course], warned.trans (List.append_nil _).symm⟩
    | runs probe =>
      have course : run = _ := run_withRole_of_created creates reads removes answered rfl rfl
      have warned : warnings run.log = _ :=
        warnings_withRole creates reads removes answered rfl rfl
      obtain ⟨fault, cleaned, ends⟩ := exists_run_release online name service inner.state
      obtain ⟨failing, rfl, fails⟩ := exists_failing_of_cleaned cleaned
      have concludes :
          run.ending = concluded inner.ending (ended (failing.map cleanupFailure)) := by
        rw [course, ← ends]
        rfl
      replace warned : warnings run.log = warnings inner.log ++
          orphanLog name inner.ending (ended (failing.map cleanupFailure)) := by
        rw [warned, ← ends]
        rfl
      refine ⟨_, failing, by rw [course]; rfl, fun _ => cleaned, fun fresh => ?_, fails, ?_, ?_, ?_⟩
      · exact absurd (Body.starts_runs probe) fresh
      · intro payload panics
        rw [panics] at concludes warned
        refine ⟨concludes, warned.trans (congrArg (warnings inner.log ++ ·) ?_)⟩
        cases failing with
        | none => rfl
        | some exchange =>
          simp [ended, orphanLog, orphanLine_cleanupFailure, toString, String.append_assoc]
      · intro failure failed
        rw [failed] at concludes warned
        refine ⟨concludes, warned.trans (congrArg (warnings inner.log ++ ·) ?_)⟩
        cases failing with
        | none => rfl
        | some exchange =>
          simp [ended, orphanLog, orphanLine_cleanupFailure, toString, String.append_assoc]
      · intro value valued
        rw [valued] at concludes warned
        cases failing with
        | none => exact ⟨concludes, warned.trans (List.append_nil _)⟩
        | some exchange => exact ⟨concludes, warned.trans (List.append_nil _)⟩
  · intro causes cut
    have course : run = _ := run_withRole_of_cutShort creates cut body
    rw [course]
    exact ⟨rfl, rfl, rfl⟩

/-- The scope of a role of the sample session whose body panics and whose cleanup gets no response,
and one whose body fails and whose cleanup is refused. -/
theorem scope_reports_every_failure_after_panic :
    let scope (body : Probe Unit) (deliveries : List Delivery) :=
      (withRole sampleSession ⟨"role_1"⟩ (.runs body)).run Script.service ⟨deliveries, []⟩
    let lost := scope (.panicked "boom") [.replied .ok [], .dropped ["connection refused"]]
    let kept := scope (.failed .notJson)
      [.replied .ok [], .replied .ok [0x31], .replied ⟨503⟩ "busy".toUTF8.toList]
    lost.ending = .panicked "boom" ∧
      warnings lost.log = [⟨.warn, "Role role_1 may be orphaned after a panic: " ++
        "GET http://zo.test:5080/api/default/roles/role_1 failed: connection refused"⟩] ∧
      kept.ending = .failed .notJson ∧
      warnings kept.log = [⟨.warn, "Role role_1 may be orphaned: " ++
        "DELETE http://zo.test:5080/api/default/roles/role_1: " ++
        "expected 200 OK, but got 503 Service Unavailable busy"⟩] := by
  intro scope lost kept
  obtain ⟨create, -, -, creates, -, -⟩ := exists_requests isOnline_sampleSession ⟨"role_1"⟩
  obtain ⟨wholeLost, -⟩ := scope_reports_every_failure creates Script.service
    ⟨[.replied .ok [], .dropped ["connection refused"]], []⟩
    (.runs (.panicked "boom" : Probe Unit))
  obtain ⟨_, _, -, -, -, -, panics, -⟩ := wholeLost [] rfl
  obtain ⟨wholeKept, -⟩ := scope_reports_every_failure creates Script.service
    ⟨[.replied .ok [], .replied .ok [0x31], .replied ⟨503⟩ "busy".toUTF8.toList], []⟩
    (.runs (.failed .notJson : Probe Unit))
  obtain ⟨_, _, -, -, -, -, -, fails, -⟩ := wholeKept [] rfl
  exact ⟨(panics "boom" rfl).1, by decide +kernel, (fails .notJson rfl).1, by decide +kernel⟩

end Roles

end LogProbe
