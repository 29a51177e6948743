/-
**Encryption of different fields commutes.** A call looks at one field of each record and changes
no other. So a call on another field, wherever in the batch that one ends, changes neither what
comes of this one nor how far it goes; and calls on different fields leave the same batch and the
same outcomes in any order.

* `LogRecord.lookup_sealed`, `LogRecord.sealed_comm` — two fields of one record.
* `Batch.encryptRecords_encryptRecords` — one call after another, record by record.
* `Batch.outcomes`, `Batch.outcomes_eq_map`, `Batch.afterCalls_perm` — any number of calls.
* `Batch.calls_commute` — the law.
-/

import LogProbe.Proofs.Ingest.Wire
import Mathlib.Data.List.Nodup

namespace LogProbe

open Json

/-! ### Two fields of a record -/

namespace LogRecord

variable {encryptor other : FieldEncryptor} {first second : String} {record : LogRecord}
  {value : Value}

theorem replaceField_comm (different : first ≠ second) (value later : Value) (record : LogRecord) :
    Batch.replaceField first value (Batch.replaceField second later record) =
      Batch.replaceField second later (Batch.replaceField first value record) := by
  induction record with
  | nil => rfl
  | cons field rest ih =>
    obtain ⟨name, old⟩ := field
    by_cases isFirst : first = name
    · have notSecond : second ≠ name := fun isSecond => different (isFirst.trans isSecond.symm)
      simp only [Batch.replaceField, if_pos isFirst, if_neg notSecond]
    · by_cases isSecond : second = name
      · simp only [Batch.replaceField, if_neg isFirst, if_pos isSecond]
      · simp only [Batch.replaceField, if_neg isFirst, if_neg isSecond, ih]

/-- Without a text there is nothing to encrypt. -/
theorem sealed_eq_self {name : String}
    (textless : ∀ text, record.lookup name ≠ some (.string text)) :
    record.sealed encryptor name = record := by
  unfold sealed
  split
  · rename_i text held
    exact absurd held (textless text)
  · rfl

theorem sealed_of_text {name text : String} (held : record.lookup name = some (.string text)) :
    record.sealed encryptor name =
      Batch.replaceField name (.string (encryptor.encrypt text)) record := by
  simp only [sealed, held]

/-- **The other fields of a record** hold what they held before. -/
theorem lookup_sealed (different : first ≠ second) (record : LogRecord) :
    List.lookup first (record.sealed encryptor second) = record.lookup first := by
  by_cases held : ∃ text, record.lookup second = some (.string text)
  · obtain ⟨text, held⟩ := held
    have clear : record.IsClear second := isClear_iff.mpr (.inr (.inr ⟨text, held⟩))
    exact (isSealedTo_sealed clear).keeps.others first different
  · rw [sealed_eq_self (not_exists.mp held)]

theorem isBlockedBy_sealed (encryptor : FieldEncryptor) (different : first ≠ second) :
    (record.sealed encryptor second).IsBlockedBy first value ↔ record.IsBlockedBy first value := by
  unfold IsBlockedBy
  rw [lookup_sealed different]

theorem isClear_sealed (encryptor : FieldEncryptor) (different : first ≠ second) :
    (record.sealed encryptor second).IsClear first ↔ record.IsClear first :=
  forall_congr' fun _ => not_congr (isBlockedBy_sealed encryptor different)

theorem holdsText_sealed (different : first ≠ second) (record : LogRecord) :
    (record.sealed encryptor second).holdsText first = record.holdsText first := by
  unfold holdsText
  rw [lookup_sealed different]

/-- **Two fields of one record** can be encrypted in either order. -/
theorem sealed_comm (different : first ≠ second) (record : LogRecord) :
    (record.sealed other second).sealed encryptor first =
      (record.sealed encryptor first).sealed other second := by
  have same : List.lookup first (record.sealed other second) = record.lookup first :=
    lookup_sealed different record
  have sameOther : List.lookup second (record.sealed encryptor first) = record.lookup second :=
    lookup_sealed different.symm record
  by_cases held : ∃ text, record.lookup first = some (.string text)
  · obtain ⟨text, held⟩ := held
    by_cases heldOther : ∃ text, record.lookup second = some (.string text)
    · obtain ⟨textOther, heldOther⟩ := heldOther
      rw [sealed_of_text (same.trans held), sealed_of_text (sameOther.trans heldOther),
        sealed_of_text held, sealed_of_text heldOther, replaceField_comm different]
    · have textless := not_exists.mp heldOther
      rw [sealed_eq_self textless,
        sealed_eq_self fun text found => textless text (sameOther.symm.trans found)]
  · have textless := not_exists.mp held
    rw [sealed_eq_self textless,
      sealed_eq_self fun text found => textless text (same.symm.trans found)]

end LogRecord

/-! ### Two calls -/

namespace Batch

variable {first second : String}

/-- A record that is in the way ends the encryption at once. -/
theorem encryptRecords_cons_of_isBlockedBy {encryptor : FieldEncryptor} {name : String}
    {record : LogRecord} {value : Value} (blocked : record.IsBlockedBy name value) (index : Nat)
    (rest : List LogRecord) :
    encryptRecords encryptor name index (record :: rest) =
      (.error (.notText index name value), record :: rest) :=
  encryptRecords_of_isBlockedBy (List.forall_mem_nil _) blocked index

/-- **One call after another.** What comes of it is what comes of it alone, and the two leave the
same records the other way round. By induction on the records, and for each of them by which of the
calls it ends: encryption of the other field does not change that. -/
theorem encryptRecords_encryptRecords (different : first ≠ second)
    (encryptor other : FieldEncryptor) (index : Nat) (records : List LogRecord) :
    encryptRecords encryptor first index (encryptRecords other second index records).2 =
      ((encryptRecords encryptor first index records).1,
        (encryptRecords other second index
          (encryptRecords encryptor first index records).2).2) := by
  induction records generalizing index with
  | nil => rfl
  | cons record rest ih =>
    by_cases clear : record.IsClear first
    · by_cases clearOther : record.IsClear second
      · have still := (LogRecord.isClear_sealed other different).mpr clear
        have stillOther := (LogRecord.isClear_sealed encryptor different.symm).mpr clearOther
        rw [encryptRecords_cons clear, encryptRecords_cons clearOther, encryptRecords_cons still,
          encryptRecords_cons stillOther, ih, LogRecord.sealed_comm different,
          List.countP_singleton, List.countP_singleton, LogRecord.holdsText_sealed different]
      · -- the other call leaves this record and all behind it as they are, and so it does afterwards
        obtain ⟨value, blocked⟩ := not_forall_not.mp clearOther
        have still := (LogRecord.isBlockedBy_sealed encryptor different.symm).mpr blocked
        rw [encryptRecords_cons clear, encryptRecords_cons_of_isBlockedBy blocked,
          encryptRecords_cons clear, encryptRecords_cons_of_isBlockedBy still]
    · obtain ⟨value, blocked⟩ := not_forall_not.mp clear
      by_cases clearOther : record.IsClear second
      · have still := (LogRecord.isBlockedBy_sealed other different).mpr blocked
        rw [encryptRecords_cons_of_isBlockedBy blocked, encryptRecords_cons clearOther,
          encryptRecords_cons_of_isBlockedBy still]
      · obtain ⟨valueOther, blockedOther⟩ := not_forall_not.mp clearOther
        rw [encryptRecords_cons_of_isBlockedBy blocked,
          encryptRecords_cons_of_isBlockedBy blockedOther,
          encryptRecords_cons_of_isBlockedBy blocked]

/-- A call goes through the records from the first one on. -/
theorem encryptField_eq (batch : Batch) (encryptor : FieldEncryptor) (name : String) :
    batch.encryptField encryptor name =
      ((encryptRecords encryptor name 0 batch.records).1,
        ⟨(encryptRecords encryptor name 0 batch.records).2⟩) := rfl

/-- What comes of a call is not changed by a call on another field before it. -/
theorem encryptField_fst_of_ne (different : first ≠ second) (batch : Batch)
    (encryptor other : FieldEncryptor) :
    ((batch.encryptField other second).2.encryptField encryptor first).1 =
      (batch.encryptField encryptor first).1 := by
  simp only [encryptField_eq, encryptRecords_encryptRecords different]

/-- Two calls on different fields leave the same batch in either order. -/
theorem encryptField_snd_comm (different : first ≠ second) (batch : Batch)
    (encryptor other : FieldEncryptor) :
    ((batch.encryptField other second).2.encryptField encryptor first).2 =
      ((batch.encryptField encryptor first).2.encryptField other second).2 := by
  simp only [encryptField_eq, encryptRecords_encryptRecords different]

/-! ### Any number of calls -/

/-- What comes of several calls that are made one after the other, each with its field. -/
def outcomes (batch : Batch) : List (FieldEncryptor × String) → List (String × Except Error Nat)
  | [] => []
  | call :: rest =>
    (call.2, (batch.encryptField call.1 call.2).1) ::
      (batch.encryptField call.1 call.2).2.outcomes rest

/-- **What comes of calls on different fields** is what comes of each of them alone, by induction on
the calls: the first one leaves what comes of the others as it is. -/
theorem outcomes_eq_map {calls : List (FieldEncryptor × String)}
    (distinct : (calls.map Prod.snd).Nodup) (batch : Batch) :
    batch.outcomes calls =
      calls.map fun call => (call.2, (batch.encryptField call.1 call.2).1) := by
  induction calls generalizing batch with
  | nil => rfl
  | cons call rest ih =>
    rw [List.map_cons] at distinct
    obtain ⟨fresh, distinct⟩ := List.nodup_cons.mp distinct
    have alone : ∀ later ∈ rest,
        ((batch.encryptField call.1 call.2).2.encryptField later.1 later.2).1 =
          (batch.encryptField later.1 later.2).1 := by
      intro later member
      have different : later.2 ≠ call.2 := fun same =>
        fresh (List.mem_map.mpr ⟨later, member, same⟩)
      exact encryptField_fst_of_ne different batch later.1 call.1
    rw [outcomes, ih distinct, List.map_cons]
    exact congrArg _ (List.map_congr_left fun later member => congrArg _ (alone later member))

theorem afterCalls_eq_foldl (batch : Batch) (calls : List (FieldEncryptor × String)) :
    batch.afterCalls calls =
      calls.foldl (fun batch call => (batch.encryptField call.1 call.2).2) batch := by
  induction calls generalizing batch with
  | nil => rfl
  | cons call rest ih => exact ih _

/-- **Calls on different fields** leave the same batch in any order. -/
theorem afterCalls_perm {calls others : List (FieldEncryptor × String)}
    (reordered : calls.Perm others) (distinct : (calls.map Prod.snd).Nodup) (batch : Batch) :
    batch.afterCalls calls = batch.afterCalls others := by
  rw [afterCalls_eq_foldl, afterCalls_eq_foldl]
  refine reordered.foldl_eq' (fun call member later memberLater batch => ?_) batch
  by_cases same : call = later
  · rw [same]
  · have different : later.2 ≠ call.2 := fun names =>
      same (List.inj_on_of_nodup_map distinct memberLater member names).symm
    exact encryptField_snd_comm different batch later.1 call.1

/-! ### The law -/

/-- **Encryption of different fields commutes.** Two calls on different fields leave the same batch
in either order, and what comes of each of them (how many texts it encrypted, or the error that
ended it, with the record and the value in its text) is what comes of it alone. Any number of calls,
no two of them on one field, leave the same batch in any order, and the same outcome for each field,
which is the one that its call has alone. -/
theorem calls_commute (batch : Batch) :
    (∀ (encryptor other : FieldEncryptor) (first second : String), first ≠ second →
      ((batch.encryptField encryptor first).2.encryptField other second).2 =
        ((batch.encryptField other second).2.encryptField encryptor first).2 ∧
      ((batch.encryptField encryptor first).2.encryptField other second).1 =
        (batch.encryptField other second).1 ∧
      ((batch.encryptField other second).2.encryptField encryptor first).1 =
        (batch.encryptField encryptor first).1) ∧
    ∀ calls : List (FieldEncryptor × String), (calls.map Prod.snd).Nodup →
      batch.outcomes calls =
        calls.map (fun call => (call.2, (batch.encryptField call.1 call.2).1)) ∧
      ∀ others, calls.Perm others →
        batch.afterCalls calls = batch.afterCalls others ∧
        (batch.outcomes calls).Perm (batch.outcomes others) := by
  refine ⟨fun encryptor other first second different => ⟨?_, ?_, ?_⟩, fun calls distinct =>
    ⟨outcomes_eq_map distinct batch, fun others reordered =>
      ⟨afterCalls_perm reordered distinct batch, ?_⟩⟩⟩
  · exact encryptField_snd_comm different.symm batch other encryptor
  · exact encryptField_fst_of_ne different.symm batch other encryptor
  · exact encryptField_fst_of_ne different batch encryptor other
  · have distinctOthers : (others.map Prod.snd).Nodup :=
      (reordered.map Prod.snd).nodup_iff.mp distinct
    rw [outcomes_eq_map distinct, outcomes_eq_map distinctOthers]
    exact reordered.map _

/-- A number in the second record, a truth value in the third, and texts around them. -/
def crossedBatch : Batch :=
  ⟨[[("app", .string "a"), ("log", .string "b")], [("app", .natural 1), ("log", .string "c")],
    [("app", .string "d"), ("log", .boolean true)], [("log", .null), ("user", .string "e")]]⟩

/-- Two calls that end at different records, and a third that goes through. -/
theorem calls_commute_crossed :
    ∃ encryptor, FieldEncryptor.ofKeyset FieldEncryptor.sharedHeaderKeyset .tink = .ok encryptor ∧
      ((crossedBatch.encryptField encryptor "app").2.encryptField encryptor "log").1 =
        .error (.notText 2 "log" (.boolean true)) ∧
      ((crossedBatch.encryptField encryptor "log").2.encryptField encryptor "app").1 =
        .error (.notText 1 "app" (.natural 1)) ∧
      ((crossedBatch.encryptField encryptor "app").2.encryptField encryptor "log").2 =
        ((crossedBatch.encryptField encryptor "log").2.encryptField encryptor "app").2 ∧
      crossedBatch.outcomes [(encryptor, "app"), (encryptor, "log"), (encryptor, "user")] =
        [("app", .error (.notText 1 "app" (.natural 1))),
          ("log", .error (.notText 2 "log" (.boolean true))), ("user", .ok 1)] ∧
      crossedBatch.afterCalls [(encryptor, "app"), (encryptor, "log"), (encryptor, "user")] =
        crossedBatch.afterCalls [(encryptor, "user"), (encryptor, "log"), (encryptor, "app")] := by
  obtain ⟨encryptor, accepted⟩ := FieldEncryptor.exists_ofKeyset_sharedHeader
  obtain ⟨pairs, sequences⟩ := calls_commute crossedBatch
  obtain ⟨sameBatch, sameLog, sameApp⟩ := pairs encryptor encryptor "app" "log" (by decide)
  have distinct : ["app", "log", "user"].Nodup := by decide
  obtain ⟨alone, anyOrder⟩ :=
    sequences [(encryptor, "app"), (encryptor, "log"), (encryptor, "user")] distinct
  have reversed := List.reverse_perm [(encryptor, "app"), (encryptor, "log"), (encryptor, "user")]
  exact ⟨encryptor, accepted, sameLog, sameApp, sameBatch, alone, (anyOrder _ reversed.symm).1⟩

end Batch

end LogProbe
