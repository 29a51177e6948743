/-
**The course of ingestion.** A batch that can be encrypted is sent in one request. How ingestion
ends is settled by what is delivered for it: an answer of status 200 counts, unless the counts of
its report cannot be added up, and any other answer is a failure.

* `Ingest.outcome` — how ingestion ends, by what is delivered for its request.
* `Ingest.exists_run_encrypted` — the course of the ingestion of a batch that can be encrypted.
* `Ingest.ends_by_status_unless_overflow` — the ending by the answer alone.
* `Ingest.encrypted_panics_on_large_counts` — a report that is taken in, and ends the probe.
-/

import LogProbe.Proofs.Cipher.Field
import LogProbe.Proofs.Config.BaseUrl
import LogProbe.Proofs.Ingest.Report

namespace LogProbe.Ingest

open Json

/-- How ingestion ends, by what is delivered for its request. -/
def outcome (request : Http.Request) : Delivery → Ending IngestReport
  | .replied status body =>
    let response : Http.Response := ⟨request.method, request.url, status, body⟩
    let report := IngestReport.ofResponse response
    if status ≠ .ok then .failed (.mismatch (response.mismatch (.status .ok)))
    else if report.IsCountable then .value report
    else .panicked overflowText
  | .cutShort _ causes => .failed (.transport (.cutShort request.method request.url causes))
  | .dropped causes => .failed (.transport (.unanswered request.method request.url causes))

section Course

variable {session : Session} {stream : String} {batch sent : Batch} {encryptor : FieldEncryptor}
  {σ : Type} (service : Service σ) (state : σ)

/-- A batch that cannot be encrypted is not sent. -/
theorem run_encrypted_of_error {error : Batch.Error}
    (failed : (batch.encryptField encryptor encryptedField).1 = .error error) :
    (encrypted session stream batch encryptor).run service state =
      ⟨.failed (.batch error), [], [], state⟩ := by
  obtain ⟨rest, result⟩ : ∃ rest,
      batch.encryptField encryptor encryptedField = (.error error, rest) := ⟨_, Prod.ext failed rfl⟩
  unfold encrypted
  rw [result]
  rfl

variable {request : Http.Request}
  (sends : session.requestFor? .post [stream, "_json"] [] (some sent.toValue) = some request)

include sends

/-- A batch is sent in one request, and what is delivered for it settles the rest. -/
theorem exists_run_send :
    ∃ lines, (send session stream sent).run service state =
      ⟨Session.received request (service state request).1,
        [(request, (service state request).1)], lines, (service state request).2⟩ := by
  unfold send Session.post
  simp only [Probe.run_seq, Probe.run_log, Run.andThen_value, Session.run_call sends]
  exact ⟨_, rfl⟩

/-- **The course of ingestion**: the encrypted batch is sent once, and what is delivered settles how
it ends. -/
theorem exists_run_encrypted {count : Nat}
    (encrypts : batch.encryptField encryptor encryptedField = (.ok count, sent)) :
    ∃ lines, (encrypted session stream batch encryptor).run service state =
      ⟨outcome request (service state request).1, [(request, (service state request).1)], lines,
        (service state request).2⟩ := by
  obtain ⟨sending, course⟩ := exists_run_send service state sends
  unfold encrypted
  rw [encrypts]
  simp only [Probe.run_seq, Probe.run_log, Run.andThen_value, course]
  cases delivered : (service state request).1 with
  | dropped => exact ⟨_, rfl⟩
  | cutShort status => exact ⟨_, rfl⟩
  | replied status body =>
    simp only [Session.received, Run.andThen_value, Probe.run_demand]
    by_cases good : status = .ok
    · subst good
      obtain ⟨summary, summarized⟩ := exists_run_summarize service (service state request).2 stream
        (IngestReport.ofResponse ⟨request.method, request.url, .ok, body⟩)
      simp only [expectOk_ok, Probe.demanded, Run.andThen_value, summarized, outcome, ne_eq,
        not_true_eq_false, if_false]
      by_cases countable :
          (IngestReport.ofResponse ⟨request.method, request.url, .ok, body⟩).IsCountable
      · simp only [if_pos countable]
        exact ⟨_, rfl⟩
      · simp only [if_neg countable]
        exact ⟨_, rfl⟩
    · simp only [expectOk_of_ne good, Probe.demanded, Run.andThen_failed, outcome, ne_eq, good,
        not_false_eq_true, if_true]
      exact ⟨_, rfl⟩

end Course

/-! ### Sample answers -/

/-- A batch of one record with a text. -/
def sampleBatch : Batch := ⟨[[(encryptedField, .string "x")]]⟩

/-- A service that answers every request with the status 200 and a given body. -/
def replying (body : String) : Service Unit := fun _ _ => (.replied .ok (Utf8.bytesOf body), ())

/-- A report whose counts can be added up. -/
def smallBody : String :=
  "\x7b\"code\":200,\"status\":[\x7b\"name\":\"a\",\"successful\":1\x7d]\x7d"

/-- A report with a stream of which more records were taken and rejected than 64 bits can count. -/
def largeBody : String :=
  "\x7b\"code\":200,\"status\":[\x7b\"name\":\"a\"," ++
    "\"successful\":18446744073709551615,\"failed\":1\x7d]\x7d"

theorem ofResponse_of_ofBytes? {body : Bytes} {report : IngestReport}
    (read : IngestReport.ofBytes? body = some report) (method : Http.Method) (url : Url)
    (status : Http.Status) : IngestReport.ofResponse ⟨method, url, status, body⟩ = report := by
  unfold IngestReport.ofResponse
  rw [read]
  rfl

/-- The request that the sample batch is sent with. -/
theorem exists_sampleRequest (encryptor : FieldEncryptor) :
    ∃ sent request, sampleBatch.encryptField encryptor encryptedField = (.ok 1, sent) ∧
      sampleSession.requestFor? .post ["default", "_json"] [] (some sent.toValue) =
        some request := by
  obtain ⟨request, sends, -⟩ := Session.exists_requestFor? isOnline_sampleSession .post
    ["default", "_json"] [] (some (sampleBatch.encryptField encryptor encryptedField).2.toValue)
  exact ⟨_, request, rfl, sends⟩

/-! ### The ending by the answer -/

/-- **The status alone settles how ingestion ends, unless the counts of the report overflow.** A
batch that can be encrypted and was answered in full is a failure for every status but 200. With
status 200 ingestion hands on the report in the body, whatever that is, if all the sums that are
formed of its counts are counts, and panics otherwise. -/
theorem ends_by_status_unless_overflow {session : Session} {stream : String} {batch sent : Batch}
    {encryptor : FieldEncryptor} {count : Nat} {request : Http.Request} {status : Http.Status}
    {body : Bytes} {σ : Type} (service : Service σ) (state : σ)
    (encrypts : batch.encryptField encryptor encryptedField = (.ok count, sent))
    (sends : session.requestFor? .post [stream, "_json"] [] (some sent.toValue) = some request)
    (answered : (service state request).1 = .replied status body) :
    let response : Http.Response := ⟨.post, request.url, status, body⟩
    let report := IngestReport.ofResponse response
    let ending := ((encrypted session stream batch encryptor).run service state).ending
    (status ≠ .ok → ending = .failed (.mismatch (response.mismatch (.status .ok)))) ∧
      (status = .ok → report.IsCountable → ending = .value report) ∧
      (status = .ok → ¬ report.IsCountable → ending = .panicked overflowText) := by
  intro response report ending
  obtain ⟨lines, course⟩ := exists_run_encrypted service state sends encrypts
  have method : request.method = .post := (Session.parts_of_requestFor? sends).1
  have settled : ending = outcome request (.replied status body) := by
    show ((encrypted session stream batch encryptor).run service state).ending = _
    rw [course, answered]
  rw [settled, outcome, method]
  refine ⟨fun other => if_pos other, fun good countable => ?_, fun good uncountable => ?_⟩
  · rw [if_neg (Decidable.not_not.mpr good)]
    exact if_pos countable
  · rw [if_neg (Decidable.not_not.mpr good)]
    exact if_neg uncountable

/-- A report that can be summarized is handed on. -/
theorem ends_by_status_with_small_counts :
    ∃ encryptor, FieldEncryptor.ofKeyset FieldEncryptor.sharedHeaderKeyset .tink = .ok encryptor ∧
      ((encrypted sampleSession "default" sampleBatch encryptor).run
        (replying smallBody) ()).ending = .value ⟨200, [⟨"a", 1, 0, none⟩]⟩ := by
  obtain ⟨encryptor, accepted⟩ := FieldEncryptor.exists_ofKeyset_sharedHeader
  obtain ⟨sent, request, encrypts, sends⟩ := exists_sampleRequest encryptor
  have read : IngestReport.ofBytes? (Utf8.bytesOf smallBody) =
      some ⟨200, [⟨"a", 1, 0, none⟩]⟩ := by decide +kernel
  have ends := (ends_by_status_unless_overflow (replying smallBody) () encrypts sends rfl).2.1 rfl
  rw [ofResponse_of_ofBytes? read] at ends
  exact ⟨encryptor, accepted, ends (by decide)⟩

/-- **A report that ends the probe**: the answer has status 200 and its body is a report, but the
number of records of its stream does not fit 64 bits. -/
theorem encrypted_panics_on_large_counts :
    ∃ encryptor sent request,
      FieldEncryptor.ofKeyset FieldEncryptor.sharedHeaderKeyset .tink = .ok encryptor ∧
      sampleBatch.encryptField encryptor encryptedField = (.ok 1, sent) ∧
      sampleSession.requestFor? .post ["default", "_json"] [] (some sent.toValue) = some request ∧
      (replying largeBody () request).1 = .replied .ok (Utf8.bytesOf largeBody) ∧
      IngestReport.ofBytes? (Utf8.bytesOf largeBody) =
        some ⟨200, [⟨"a", 18446744073709551615, 1, none⟩]⟩ ∧
      ((encrypted sampleSession "default" sampleBatch encryptor).run
        (replying largeBody) ()).ending = .panicked overflowText := by
  obtain ⟨encryptor, accepted⟩ := FieldEncryptor.exists_ofKeyset_sharedHeader
  obtain ⟨sent, request, encrypts, sends⟩ := exists_sampleRequest encryptor
  have read : IngestReport.ofBytes? (Utf8.bytesOf largeBody) =
      some ⟨200, [⟨"a", 18446744073709551615, 1, none⟩]⟩ := by decide +kernel
  have answered : (replying largeBody () request).1 = .replied .ok (Utf8.bytesOf largeBody) := rfl
  refine ⟨encryptor, sent, request, accepted, encrypts, sends, answered, read, ?_⟩
  have good : ¬ Http.Status.ok ≠ .ok := fun other => other rfl
  have uncountable : ¬ IngestReport.IsCountable ⟨200, [⟨"a", 18446744073709551615, 1, none⟩]⟩ := by
    decide
  obtain ⟨lines, course⟩ := exists_run_encrypted (replying largeBody) () sends encrypts
  rw [course, answered]
  simp only [outcome, if_neg good, ofResponse_of_ofBytes? read, if_neg uncountable]

end LogProbe.Ingest
