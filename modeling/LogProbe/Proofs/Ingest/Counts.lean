/-
**Counts are exact or end the probe.** A total of a report is the sum of its counts as a number, or
a panic if that is none of 64 bits. The log of rejected records goes through the streams in their
order and names each that rejected some, with its numbers as they are; it ends with the first of
these whose numbers cannot be added up, and with nothing else.

* `countTotal_eq_sum` — the sum of counts.
* `Probe.IsExactSum` — what a sum of counts is to be.
* `StreamStatus.rejection` — the line for a stream that rejected records.
* `IngestReport.sums_and_warnings_are_exact` — the law.
-/

import LogProbe.Proofs.Ingest.Report
import Mathlib.Algebra.Ring.Nat

namespace LogProbe

/-! ### Totals -/

theorem countTotal_eq_sum (counts : List UInt64) :
    countTotal counts = (counts.map UInt64.toNat).sum := by
  induction counts with
  | nil => rfl
  | cons count rest ih => rw [countTotal, List.map_cons, List.sum_cons, ih]

/-- The sum is a number of 64 bits and the value of the probe, or it is too large and the probe
panics. -/
structure Probe.IsExactSum (probe : Probe UInt64) (total : Nat) : Prop where
  fits : total < UInt64.size → ∃ count, probe = .done count ∧ count.toNat = total
  overflows : UInt64.size ≤ total → probe = .panicked "attempt to add with overflow"

/-- **A sum of counts is exact**: the sums on the way are no larger than the last one. -/
theorem isExactSum_checkedSum (counts : List UInt64) :
    (Probe.ofSum (checkedSum counts)).IsExactSum (counts.map UInt64.toNat).sum := by
  rw [checkedSum_eq, countTotal_eq_sum]
  refine ⟨fun fits => ⟨UInt64.ofNat (counts.map UInt64.toNat).sum, ?_, ?_⟩, fun large => ?_⟩
  · rw [if_pos fits]
    rfl
  · exact UInt64.toNat_ofNat_of_lt' fits
  · rw [if_neg (Nat.not_lt.mpr large)]
    rfl

/-! ### Warnings -/

/-- The line for a stream that rejected records, with its numbers as they are. -/
def StreamStatus.rejection (status : StreamStatus) : LogLine :=
  ⟨.warn, s!"Stream {status.name} rejected {status.failed.toNat} of " ++
    s!"{status.failed.toNat + status.successful.toNat} records: " ++
      status.error.getD "no reason given"⟩

/-- If the records of a stream can be counted, the line that is logged has their number. -/
theorem StreamStatus.warning_eq_rejection {status : StreamStatus} (countable : status.IsCountable)
    (rejected : 0 < status.failed) : status.warning = status.rejection := by
  have added : (status.failed + status.successful).toNat =
      status.failed.toNat + status.successful.toNat :=
    (UInt64.toNat_add _ _).trans (Nat.mod_eq_of_lt (countable rejected))
  have shown : toString (status.failed + status.successful) =
      toString (status.failed.toNat + status.successful.toNat) := congrArg Nat.repr added
  unfold warning rejection failureText
  simp only [shown, String.append_assoc]
  rfl

namespace IngestReport

/-- The lines for the streams that rejected records, in their order. -/
def rejections (streams : List StreamStatus) : List LogLine :=
  (streams.filter fun status => 0 < status.failed).map StreamStatus.rejection

theorem warnings_eq_rejections {streams : List StreamStatus}
    (countable : ∀ status ∈ streams, status.IsCountable) :
    warnings streams = rejections streams := by
  refine List.map_congr_left fun status member => ?_
  obtain ⟨inside, rejected⟩ := List.mem_filter.mp member
  exact StreamStatus.warning_eq_rejection (countable status inside) (of_decide_eq_true rejected)

/-- **Sums and warnings are exact.** Each total of a report is the sum of the counts of its streams,
or a panic if that is 2^64 or more. The log has one warning for each stream that rejected records,
in their order, and none for any other. It ends with a panic at the first stream that rejected
records and whose records are 2^64 or more, behind the warnings of those in front of it, and goes
through if there is no such stream. -/
theorem sums_and_warnings_are_exact (report : IngestReport) {σ : Type} (service : Service σ)
    (state : σ) :
    (Probe.ofSum report.successful?).IsExactSum
      (report.streams.map fun status => status.successful.toNat).sum ∧
    (Probe.ofSum report.failed?).IsExactSum
      (report.streams.map fun status => status.failed.toNat).sum ∧
    ((∀ status ∈ report.streams, status.IsCountable) →
      report.logFailures.run service state =
        ⟨.value (), [], rejections report.streams, state⟩) ∧
    ∀ before status after, report.streams = before ++ status :: after →
      (∀ other ∈ before, other.IsCountable) → 0 < status.failed →
      UInt64.size ≤ status.failed.toNat + status.successful.toNat →
      report.logFailures.run service state =
        ⟨.panicked "attempt to add with overflow", [], rejections before, state⟩ := by
  have successful := isExactSum_checkedSum (report.streams.map (·.successful))
  have failed := isExactSum_checkedSum (report.streams.map (·.failed))
  rw [List.map_map] at successful failed
  refine ⟨successful, failed, fun countable => ?_,
    fun before status after split countable rejected large => ?_⟩
  · rw [logFailures, run_logStreams_of_forall service state countable,
      warnings_eq_rejections countable]
  · have uncountable : ¬ status.IsCountable := fun counts =>
      absurd (counts rejected) (Nat.not_lt.mpr large)
    rw [logFailures, split, run_logStreams_of_not service state countable uncountable,
      warnings_eq_rejections countable]
    rfl

/-- A report with as many records taken as 64 bits can count, and an error in a stream that rejected
none; then a stream that rejected some, one whose records cannot be counted, and another one. -/
def crowdedReport : IngestReport :=
  ⟨200, [⟨"a", 18446744073709551615, 0, some "late"⟩, ⟨"b", 3, 2, none⟩,
    ⟨"c", 18446744073709551615, 1, none⟩, ⟨"d", 0, 1, some "late"⟩]⟩

/-- Four records were rejected, those that were taken are too many, and the log ends with the third
stream, of which it has nothing. -/
theorem sums_and_warnings_are_exact_crowded :
    (∃ count : UInt64, Probe.ofSum crowdedReport.failed? = .done count ∧ count.toNat = 4) ∧
    Probe.ofSum crowdedReport.successful? = .panicked "attempt to add with overflow" ∧
    crowdedReport.logFailures.run Service.unreachable () =
      ⟨.panicked "attempt to add with overflow", [],
        [⟨.warn, "Stream b rejected 2 of 5 records: no reason given"⟩], ()⟩ := by
  obtain ⟨successful, failed, -, ends⟩ :=
    sums_and_warnings_are_exact crowdedReport Service.unreachable ()
  refine ⟨failed.fits (by decide), successful.overflows (by decide), ?_⟩
  exact ends [⟨"a", 18446744073709551615, 0, some "late"⟩, ⟨"b", 3, 2, none⟩] _ _ rfl (by decide)
    (by decide) (by decide)

end IngestReport

end LogProbe
