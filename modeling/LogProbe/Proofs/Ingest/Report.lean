/-
**Counts that are added up.** Counts are of 64 bits and a sum that does not fit ends the probe, so
that a report is summarized exactly if every sum that is formed on the way is a count.

* `countTotal` — the sum of counts as a number, whatever its size.
* `checkedSum_eq` — a sum of counts is that number, as long as it is a count.
* `IngestReport.IsCountable` — every sum that a summary forms is a count.
* `IngestReport.run_logStreams` — what is logged of streams that can be added up, and what comes
  after them.
* `Ingest.exists_run_summarize` — how a summary ends.
-/

import LogProbe.Ingest.Scenario
import LogProbe.Proofs.Probe.Course

namespace LogProbe

/-! ### Sums -/

/-- The sum of counts as a number. -/
def countTotal : List UInt64 → Nat
  | [] => 0
  | count :: rest => count.toNat + countTotal rest

theorem checkedAdd_of_lt {left right : UInt64} (fits : left.toNat + right.toNat < UInt64.size) :
    ∃ sum, checkedAdd left right = some sum ∧ sum.toNat = left.toNat + right.toNat :=
  ⟨left + right, if_pos fits, (UInt64.toNat_add left right).trans (Nat.mod_eq_of_lt fits)⟩

theorem checkedAdd_of_le {left right : UInt64} (large : UInt64.size ≤ left.toNat + right.toNat) :
    checkedAdd left right = none := if_neg (Nat.not_lt.mpr large)

/-- By induction on the counts with the sum so far, which is a count itself: as soon as it is none,
no later sum is one. -/
theorem foldlM_checkedAdd (counts : List UInt64) (start : UInt64) :
    counts.foldlM checkedAdd start =
      if start.toNat + countTotal counts < UInt64.size then
        some (UInt64.ofNat (start.toNat + countTotal counts))
      else none := by
  induction counts generalizing start with
  | nil =>
    rw [countTotal, Nat.add_zero, if_pos start.toNat_lt, UInt64.ofNat_toNat]
    rfl
  | cons count rest ih =>
    rw [List.foldlM_cons, countTotal]
    by_cases fits : start.toNat + count.toNat < UInt64.size
    · obtain ⟨sum, added, value⟩ := checkedAdd_of_lt fits
      rw [added, Option.bind_eq_bind, Option.bind_some, ih, value, Nat.add_assoc]
    · rw [checkedAdd_of_le (Nat.not_lt.mp fits), if_neg (by omega)]
      rfl

/-- **A sum of counts is the sum of the numbers**, if that is a count. -/
theorem checkedSum_eq (counts : List UInt64) :
    checkedSum counts =
      if countTotal counts < UInt64.size then some (UInt64.ofNat (countTotal counts))
      else none := by
  have summed := foldlM_checkedAdd counts 0
  rwa [UInt64.toNat_zero, Nat.zero_add] at summed

/-! ### Reports -/

/-- The records of a stream can be counted, if any of them was rejected: otherwise they are not. -/
def StreamStatus.IsCountable (status : StreamStatus) : Prop :=
  0 < status.failed → status.failed.toNat + status.successful.toNat < UInt64.size

instance (status : StreamStatus) : Decidable status.IsCountable :=
  inferInstanceAs (Decidable (_ → _))

/-- What is logged of a stream that rejected records. -/
def StreamStatus.warning (status : StreamStatus) : LogLine :=
  ⟨.warn, status.failureText (status.failed + status.successful)⟩

namespace IngestReport

/-- Every sum that a summary forms is a count. -/
structure IsCountable (report : IngestReport) : Prop where
  streams : ∀ status ∈ report.streams, status.IsCountable
  successful : countTotal (report.streams.map (·.successful)) < UInt64.size
  failed : countTotal (report.streams.map (·.failed)) < UInt64.size

theorem isCountable_iff (report : IngestReport) :
    report.IsCountable ↔ (∀ status ∈ report.streams, status.IsCountable) ∧
      countTotal (report.streams.map (·.successful)) < UInt64.size ∧
      countTotal (report.streams.map (·.failed)) < UInt64.size := by
  constructor
  · intro countable
    exact ⟨countable.streams, countable.successful, countable.failed⟩
  · rintro ⟨streams, successful, failed⟩
    exact ⟨streams, successful, failed⟩

instance (report : IngestReport) : Decidable report.IsCountable :=
  decidable_of_iff' _ report.isCountable_iff

/-- What is logged of the streams that rejected records. -/
def warnings (streams : List StreamStatus) : List LogLine :=
  (streams.filter fun status => 0 < status.failed).map StreamStatus.warning

variable {σ : Type} (service : Service σ) (state : σ)

/-- A stream that can be counted is logged if it rejected records, and the next ones follow. -/
theorem run_logStreams_cons {status : StreamStatus} (countable : status.IsCountable)
    (rest : List StreamStatus) :
    (logStreams (status :: rest)).run service state =
      { (logStreams rest).run service state with
        log := warnings [status] ++ ((logStreams rest).run service state).log } := by
  rw [logStreams]
  by_cases rejected : 0 < status.failed
  · have added : checkedAdd status.failed status.successful =
        some (status.failed + status.successful) := if_pos (countable rejected)
    have own : warnings [status] = [status.warning] := by
      unfold warnings
      rw [List.filter_cons_of_pos (by simpa using rejected)]
      rfl
    rw [if_pos rejected, added, own]
    rfl
  · have own : warnings [status] = [] := by
      unfold warnings
      rw [List.filter_cons_of_neg (by simpa using rejected)]
      rfl
    rw [if_neg rejected, own]
    rfl

/-- **Streams that can be counted** are gone through in their order, and those after them follow. -/
theorem run_logStreams {streams : List StreamStatus}
    (countable : ∀ status ∈ streams, status.IsCountable) (rest : List StreamStatus) :
    (logStreams (streams ++ rest)).run service state =
      { (logStreams rest).run service state with
        log := warnings streams ++ ((logStreams rest).run service state).log } := by
  induction streams with
  | nil => rfl
  | cons status others ih =>
    obtain ⟨first, countable⟩ := List.forall_mem_cons.mp countable
    have split : warnings (status :: others) = warnings [status] ++ warnings others := by
      unfold warnings
      rw [← List.map_append, ← List.filter_append]
      rfl
    rw [List.cons_append, run_logStreams_cons service state first, ih countable, split,
      List.append_assoc]

theorem run_logStreams_of_forall {streams : List StreamStatus}
    (countable : ∀ status ∈ streams, status.IsCountable) :
    (logStreams streams).run service state = ⟨.value (), [], warnings streams, state⟩ := by
  have course := run_logStreams service state countable []
  rw [List.append_nil] at course
  rw [course]
  simp [logStreams]

/-- **The first stream that cannot be counted** ends the log, behind the warnings of those in front
of it. -/
theorem run_logStreams_of_not {before after : List StreamStatus} {status : StreamStatus}
    (countable : ∀ other ∈ before, other.IsCountable) (large : ¬ status.IsCountable) :
    (logStreams (before ++ status :: after)).run service state =
      ⟨.panicked overflowText, [], warnings before, state⟩ := by
  obtain ⟨rejected, large⟩ := Classical.not_imp.mp large
  rw [run_logStreams service state countable, logStreams, if_pos rejected,
    checkedAdd_of_le (Nat.not_lt.mp large)]
  simp [Probe.ofSum]

/-- How the log of the streams ends. -/
theorem exists_run_logStreams (streams : List StreamStatus) :
    ∃ lines, (logStreams streams).run service state =
      ⟨if ∀ status ∈ streams, status.IsCountable then .value () else .panicked overflowText,
        [], lines, state⟩ := by
  -- the log ends at the first stream that cannot be counted, whatever stands behind it
  cases found : streams.find? fun status => !decide status.IsCountable with
  | none =>
    have countable : ∀ status ∈ streams, status.IsCountable := by
      simpa using List.find?_eq_none.mp found
    exact ⟨_, by rw [if_pos countable, run_logStreams_of_forall service state countable]⟩
  | some status =>
    obtain ⟨large, before, after, rfl, countable⟩ := List.find?_eq_some_iff_append.mp found
    have large : ¬ status.IsCountable := by simpa using large
    have countable : ∀ other ∈ before, other.IsCountable := by simpa using countable
    refine ⟨warnings before, ?_⟩
    rw [if_neg fun all => large (all status (List.mem_append_right before List.mem_cons_self)),
      run_logStreams_of_not service state countable large]

end IngestReport

namespace Ingest

variable {σ : Type} (service : Service σ) (state : σ)

theorem run_ofSum (sum : Nat) :
    (Probe.ofSum (if sum < UInt64.size then some (UInt64.ofNat sum) else none)).run service state =
      ⟨if sum < UInt64.size then .value (UInt64.ofNat sum) else .panicked overflowText,
        [], [], state⟩ := by
  by_cases fits : sum < UInt64.size
  · rw [if_pos fits, if_pos fits]
    rfl
  · rw [if_neg fits, if_neg fits]
    rfl

/-- **A summary asks for nothing**, and it ends in a panic exactly if some sum is no count. -/
theorem exists_run_summarize (stream : String) (report : IngestReport) :
    ∃ lines, (summarize stream report).run service state =
      ⟨if report.IsCountable then .value () else .panicked overflowText, [], lines, state⟩ := by
  obtain ⟨lines, logged⟩ := IngestReport.exists_run_logStreams service state report.streams
  unfold summarize
  simp only [Probe.run_seq, IngestReport.logFailures, logged, IngestReport.successful?,
    IngestReport.failed?, checkedSum_eq, run_ofSum, Probe.run_log]
  by_cases streams : ∀ status ∈ report.streams, status.IsCountable
  case neg =>
    have uncountable : ¬ report.IsCountable := fun countable => streams countable.streams
    rw [if_neg streams, if_neg uncountable]
    exact ⟨_, rfl⟩
  by_cases successful : countTotal (report.streams.map (·.successful)) < UInt64.size
  case neg =>
    have uncountable : ¬ report.IsCountable := fun countable => successful countable.successful
    rw [if_pos streams, if_neg successful, if_neg uncountable]
    exact ⟨_, rfl⟩
  by_cases failed : countTotal (report.streams.map (·.failed)) < UInt64.size
  case neg =>
    have uncountable : ¬ report.IsCountable := fun countable => failed countable.failed
    rw [if_pos streams, if_pos successful, if_neg failed, if_neg uncountable]
    exact ⟨_, rfl⟩
  have countable : report.IsCountable := ⟨streams, successful, failed⟩
  rw [if_pos streams, if_pos successful, if_pos failed, if_pos countable]
  exact ⟨_, rfl⟩

end Ingest

end LogProbe
