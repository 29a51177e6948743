/-
**The effect of encryption on a batch.** The records are encrypted in their order, up to the first
one whose field holds something other than null or a text. That one and all later ones stay as they
are; without such a record all are encrypted. Nothing changes in a record but a text of the field.

* `LogRecord.IsBlockedBy`, `LogRecord.IsClear` — what ends the encryption, and what does not.
* `LogRecord.IsSealedTo`, `LogRecord.Keeps` — what becomes of a record, and what stays of it.
* `Batch.encryptRecords_append` — records that are passed, with whatever comes after them.
* `Batch.encryptField_effect` — the law.
-/

import LogProbe.Ingest.Batch
import LogProbe.Proofs.Cipher.Field
import Mathlib.Data.List.Forall2

namespace LogProbe

open Json

/-! ### Records -/

namespace LogRecord

variable {encryptor : FieldEncryptor} {name : String} {record later : LogRecord}

/-- A field holds a value that is neither null nor a text. -/
def IsBlockedBy (name : String) (record : LogRecord) (value : Value) : Prop :=
  record.lookup name = some value ∧ value ≠ .null ∧ ∀ text, value ≠ .string text

/-- Nothing in a record is in the way of encryption. -/
def IsClear (name : String) (record : LogRecord) : Prop := ∀ value, ¬ record.IsBlockedBy name value

/-- Whether a field holds a text. -/
def holdsText (name : String) (record : LogRecord) : Bool :=
  match record.lookup name with
  | some (.string _) => true
  | _ => false

/-- What becomes of a record: it stays if the field is missing or null, and the text of the field is
encrypted in its place. -/
inductive IsSealedTo (encryptor : FieldEncryptor) (name : String) : LogRecord → LogRecord → Prop
  | missing {record : LogRecord} (absent : record.lookup name = none) :
      IsSealedTo encryptor name record record
  | null {record : LogRecord} (found : record.lookup name = some .null) :
      IsSealedTo encryptor name record record
  | text {before after : LogRecord} {text : String} (first : ∀ field ∈ before, field.1 ≠ name) :
      IsSealedTo encryptor name (before ++ (name, .string text) :: after)
        (before ++ (name, .string (encryptor.encrypt text)) :: after)

/-- What stays of a record: the names of its fields in their order, every other field, and the field
itself unless it holds a text. -/
structure Keeps (name : String) (record later : LogRecord) : Prop where
  names : later.map Prod.fst = record.map Prod.fst
  others : ∀ other, other ≠ name → later.lookup other = record.lookup other
  own : (∀ text, record.lookup name ≠ some (.string text)) → later = record

theorem keeps_refl (name : String) (record : LogRecord) : record.Keeps name record :=
  ⟨rfl, fun _ _ => rfl, fun _ => rfl⟩

theorem lookup_cons (name : String) (field : String × Value) (rest : LogRecord) :
    List.lookup name (field :: rest) =
      if name = field.1 then some field.2 else List.lookup name rest := by
  rw [List.lookup_cons]
  by_cases same : name = field.1
  · rw [beq_iff_eq.mpr same, if_pos same]
  · rw [beq_false_of_ne same, if_neg same]

/-- A record is clear whose field is missing, null or a text. -/
theorem isClear_iff :
    record.IsClear name ↔ record.lookup name = none ∨ record.lookup name = some .null ∨
      ∃ text, record.lookup name = some (.string text) := by
  constructor
  · intro clear
    cases found : record.lookup name with
    | none => exact .inl rfl
    | some value =>
      refine .inr (by_contra fun other => clear value ⟨found, ?_, ?_⟩)
      · rintro rfl
        exact other (.inl rfl)
      · rintro text rfl
        exact other (.inr ⟨text, rfl⟩)
  · rintro (missing | null | ⟨text, held⟩) value ⟨found, notNull, notText⟩
    · exact nomatch missing.symm.trans found
    · exact notNull (Option.some.inj (null.symm.trans found)).symm
    · exact notText text (Option.some.inj (held.symm.trans found)).symm

/-- A field that is found stands behind others, and a new value takes its place. -/
theorem exists_replaceField_eq {old : Value} (found : record.lookup name = some old) :
    ∃ before after, record = before ++ (name, old) :: after ∧ (∀ field ∈ before, field.1 ≠ name) ∧
      ∀ value, Batch.replaceField name value record = before ++ (name, value) :: after := by
  induction record with
  | nil => exact nomatch found
  | cons field rest ih =>
    obtain ⟨other, held⟩ := field
    rw [lookup_cons] at found
    by_cases same : name = other
    · rw [if_pos same] at found
      cases found
      cases same
      exact ⟨[], rest, rfl, List.forall_mem_nil _, fun value => if_pos rfl⟩
    · rw [if_neg same] at found
      obtain ⟨before, after, rfl, others, replaced⟩ := ih found
      refine ⟨(other, held) :: before, after, rfl,
        List.forall_mem_cons.mpr ⟨Ne.symm same, others⟩, fun value => ?_⟩
      rw [Batch.replaceField, if_neg same, replaced]
      rfl

/-- A record with its text encrypted. -/
def sealed (encryptor : FieldEncryptor) (name : String) (record : LogRecord) : LogRecord :=
  match record.lookup name with
  | some (.string text) => Batch.replaceField name (.string (encryptor.encrypt text)) record
  | _ => record

theorem isSealedTo_sealed (clear : record.IsClear name) :
    record.IsSealedTo encryptor name (record.sealed encryptor name) := by
  obtain missing | null | ⟨text, held⟩ := isClear_iff.mp clear
  · simp only [sealed, missing]
    exact .missing missing
  · simp only [sealed, null]
    exact .null null
  · obtain ⟨before, after, rfl, others, replaced⟩ := exists_replaceField_eq held
    simp only [sealed, held, replaced]
    exact .text others

/-- A field behind others is found. -/
theorem lookup_behind {before : LogRecord} (others : ∀ field ∈ before, field.1 ≠ name)
    (value : Value) (after : LogRecord) :
    List.lookup name (before ++ (name, value) :: after) = some value := by
  have missing : before.lookup name = none :=
    List.lookup_eq_none_iff.mpr fun field member => by simpa using (others field member).symm
  rw [List.lookup_append, missing, Option.none_or, lookup_cons, if_pos rfl]

theorem IsSealedTo.keeps (becomes : record.IsSealedTo encryptor name later) :
    record.Keeps name later := by
  cases becomes with
  | missing => exact keeps_refl name record
  | null => exact keeps_refl name record
  | @text before after text others =>
    refine ⟨by simp, fun other different => ?_, fun textless => ?_⟩
    · simp only [List.lookup_append, lookup_cons, if_neg different]
    · exact absurd (lookup_behind others _ after) (textless text)

end LogRecord

/-! ### Batches -/

namespace Batch

variable {encryptor : FieldEncryptor} {name : String}

theorem map_add_zero (result : Except Error Nat) : result.map (· + 0) = result := by
  cases result <;> rfl

/-- A clear record is passed: it is sealed, and it counts if it holds a text. -/
theorem encryptRecords_cons {record : LogRecord} (clear : record.IsClear name) (index : Nat)
    (rest : List LogRecord) :
    let later := encryptRecords encryptor name (index + 1) rest
    encryptRecords encryptor name index (record :: rest) =
      (later.1.map (· + [record].countP (LogRecord.holdsText name)),
        record.sealed encryptor name :: later.2) := by
  intro later
  rw [encryptRecords, List.countP_singleton]
  obtain missing | null | ⟨text, held⟩ := LogRecord.isClear_iff.mp clear
  · simp only [LogRecord.holdsText, LogRecord.sealed, missing]
    exact Prod.ext (map_add_zero _).symm rfl
  · simp only [LogRecord.holdsText, LogRecord.sealed, null]
    exact Prod.ext (map_add_zero _).symm rfl
  · simp only [LogRecord.holdsText, LogRecord.sealed, held]
    rfl

/-- **Records that are passed.** By induction on the clear records in front: they are sealed, those
that hold a text are counted, and the encryption goes on with what comes after them. -/
theorem encryptRecords_append {before : List LogRecord}
    (clear : ∀ record ∈ before, record.IsClear name) (index : Nat) (rest : List LogRecord) :
    let later := encryptRecords encryptor name (index + before.length) rest
    encryptRecords encryptor name index (before ++ rest) =
      (later.1.map (· + before.countP (LogRecord.holdsText name)),
        before.map (LogRecord.sealed encryptor name) ++ later.2) := by
  induction before generalizing index with
  | nil =>
    exact Prod.ext (map_add_zero _).symm rfl
  | cons record others ih =>
    obtain ⟨first, clear⟩ := List.forall_mem_cons.mp clear
    intro later
    have next : index + 1 + others.length = index + (record :: others).length := by
      rw [List.length_cons]
      omega
    rw [List.cons_append, encryptRecords_cons first, ih clear, next]
    have counts : (record :: others).countP (LogRecord.holdsText name) =
        others.countP (LogRecord.holdsText name) + [record].countP (LogRecord.holdsText name) := by
      rw [← List.singleton_append, List.countP_append, Nat.add_comm]
    rw [counts]
    refine Prod.ext ?_ rfl
    cases later.1 with
    | ok count => exact congrArg Except.ok (Nat.add_assoc _ _ _)
    | error error => rfl

/-- Records of which none is in the way are all sealed. -/
theorem encryptRecords_of_isClear {records : List LogRecord}
    (clear : ∀ record ∈ records, record.IsClear name) (index : Nat) :
    encryptRecords encryptor name index records =
      (.ok (records.countP (LogRecord.holdsText name)),
        records.map (LogRecord.sealed encryptor name)) := by
  have passed : encryptRecords encryptor name index (records ++ []) = _ :=
    encryptRecords_append clear index []
  simpa [encryptRecords, Except.map] using passed

/-- The first record that is in the way ends the encryption. -/
theorem encryptRecords_of_isBlockedBy {before after : List LogRecord} {record : LogRecord}
    {value : Value} (clear : ∀ other ∈ before, other.IsClear name)
    (blocked : record.IsBlockedBy name value) (index : Nat) :
    encryptRecords encryptor name index (before ++ record :: after) =
      (.error (.notText (index + before.length) name value),
        before.map (LogRecord.sealed encryptor name) ++ record :: after) := by
  rw [encryptRecords_append clear, encryptRecords]
  obtain ⟨found, notNull, notText⟩ := blocked
  cases value with
  | null => exact absurd rfl notNull
  | string text => exact absurd rfl (notText text)
  | boolean | number | array | object => simp [found, Except.map]

theorem encryptField_of_isClear {batch : Batch}
    (clear : ∀ record ∈ batch.records, record.IsClear name) :
    batch.encryptField encryptor name = (.ok (batch.records.countP (LogRecord.holdsText name)),
      ⟨batch.records.map (LogRecord.sealed encryptor name)⟩) := by
  unfold encryptField
  rw [encryptRecords_of_isClear clear]

theorem encryptField_of_isBlockedBy {batch : Batch} {before after : List LogRecord}
    {record : LogRecord} {value : Value} (split : batch.records = before ++ record :: after)
    (clear : ∀ other ∈ before, other.IsClear name) (blocked : record.IsBlockedBy name value) :
    batch.encryptField encryptor name = (.error (.notText before.length name value),
      ⟨before.map (LogRecord.sealed encryptor name) ++ record :: after⟩) := by
  unfold encryptField
  rw [split, encryptRecords_of_isBlockedBy clear blocked, Nat.zero_add]

/-- Records are all clear, or one of them is the first that is in the way. -/
theorem forall_isClear_or_exists_first (name : String) (records : List LogRecord) :
    (∀ record ∈ records, record.IsClear name) ∨
      ∃ before record after value, records = before ++ record :: after ∧
        (∀ other ∈ before, other.IsClear name) ∧ record.IsBlockedBy name value := by
  induction records with
  | nil => exact .inl (List.forall_mem_nil _)
  | cons record rest ih =>
    by_cases clear : record.IsClear name
    · obtain others | ⟨before, blocked, after, value, rfl, sound, refused⟩ := ih
      · exact .inl (List.forall_mem_cons.mpr ⟨clear, others⟩)
      · exact .inr ⟨record :: before, blocked, after, value, rfl,
          List.forall_mem_cons.mpr ⟨clear, sound⟩, refused⟩
    · obtain ⟨value, blocked⟩ := not_forall_not.mp clear
      exact .inr ⟨[], record, rest, value, rfl, List.forall_mem_nil _, blocked⟩

/-- A batch that was encrypted has all its records sealed. -/
theorem eq_map_sealed_of_encryptField {batch sent : Batch} {count : Nat}
    (done : batch.encryptField encryptor name = (.ok count, sent)) :
    (∀ record ∈ batch.records, record.IsClear name) ∧
      sent.records = batch.records.map (LogRecord.sealed encryptor name) := by
  obtain clear | ⟨before, record, after, value, split, clear, blocked⟩ :=
    forall_isClear_or_exists_first name batch.records
  · rw [encryptField_of_isClear clear] at done
    cases done
    exact ⟨clear, rfl⟩
  · rw [encryptField_of_isBlockedBy split clear blocked] at done
    cases done

theorem forall₂_isSealedTo {records : List LogRecord}
    (clear : ∀ record ∈ records, record.IsClear name) :
    List.Forall₂ (LogRecord.IsSealedTo encryptor name) records
      (records.map (LogRecord.sealed encryptor name)) :=
  List.forall₂_map_right_iff.mpr (List.forall₂_same.mpr fun record member =>
    LogRecord.isSealedTo_sealed (clear record member))

/-! ### The law -/

/-- **The effect of encryption on a batch.** If nothing is in the way, all records are sealed and
those that hold a text are counted. Otherwise the first record that is in the way is named with its
value, the records in front of it are sealed as if they were the whole batch, and it stays as it is
with all later ones. Either way the records keep their number and their order, the names of their
fields and every field but a text of the one that is encrypted. -/
theorem encryptField_effect (batch : Batch) (encryptor : FieldEncryptor) (name : String) :
    let outcome := batch.encryptField encryptor name
    ((∀ record ∈ batch.records, record.IsClear name) →
      outcome.1 = .ok (batch.records.countP (LogRecord.holdsText name)) ∧
      List.Forall₂ (LogRecord.IsSealedTo encryptor name) batch.records outcome.2.records) ∧
    (∀ before record after value, batch.records = before ++ record :: after →
      (∀ other ∈ before, other.IsClear name) → record.IsBlockedBy name value →
      outcome.1 = .error (.notText before.length name value) ∧
      (Error.notText before.length name value).message? = some
        s!"Record {before.length} has a non-string {Text.quoted name} field: {value.text}" ∧
      ∃ front, outcome.2.records = front ++ record :: after ∧
        List.Forall₂ (LogRecord.IsSealedTo encryptor name) before front ∧
        (⟨before⟩ : Batch).encryptField encryptor name =
          (.ok (before.countP (LogRecord.holdsText name)), ⟨front⟩)) ∧
    List.Forall₂ (LogRecord.Keeps name) batch.records outcome.2.records := by
  intro outcome
  refine ⟨fun clear => ?_, fun before record after value split clear blocked => ?_, ?_⟩
  · have whole : outcome = _ := encryptField_of_isClear clear
    rw [whole]
    exact ⟨rfl, forall₂_isSealedTo clear⟩
  · have broken : outcome = _ := encryptField_of_isBlockedBy split clear blocked
    rw [broken]
    exact ⟨rfl, rfl, _, rfl, forall₂_isSealedTo clear, encryptField_of_isClear clear⟩
  · obtain clear | ⟨before, record, after, value, split, clear, blocked⟩ :=
      forall_isClear_or_exists_first name batch.records
    · have whole : outcome = _ := encryptField_of_isClear clear
      rw [whole]
      exact (forall₂_isSealedTo clear).imp fun _ _ => LogRecord.IsSealedTo.keeps
    · have broken : outcome = _ := encryptField_of_isBlockedBy split clear blocked
      rw [broken, split]
      exact List.rel_append ((forall₂_isSealedTo clear).imp fun _ _ => LogRecord.IsSealedTo.keeps)
        (List.forall₂_same.mpr fun other _ => LogRecord.keeps_refl name other)

/-- A text and a null in front of a truth value, and a text behind it. -/
def mixedBatch : Batch :=
  ⟨[[("level", .string "info"), ("log", .string "a")], [("log", .null)], [("log", .boolean true)],
    [("log", .string "b")]]⟩

/-- The encryption ends with the third record. -/
theorem encryptField_effect_mixed :
    ∃ encryptor front,
      FieldEncryptor.ofKeyset FieldEncryptor.sharedHeaderKeyset .tink = .ok encryptor ∧
      (mixedBatch.encryptField encryptor "log").1 = .error (.notText 2 "log" (.boolean true)) ∧
      (mixedBatch.encryptField encryptor "log").2.records =
        front ++ [[("log", .boolean true)], [("log", .string "b")]] ∧
      List.Forall₂ (LogRecord.IsSealedTo encryptor "log")
        [[("level", .string "info"), ("log", .string "a")], [("log", .null)]] front := by
  obtain ⟨encryptor, accepted⟩ := FieldEncryptor.exists_ofKeyset_sharedHeader
  have clear : ∀ other ∈ [[("level", Value.string "info"), ("log", .string "a")], [("log", .null)]],
      LogRecord.IsClear "log" other :=
    List.forall_mem_cons.mpr ⟨LogRecord.isClear_iff.mpr (.inr (.inr ⟨"a", rfl⟩)),
      List.forall_mem_singleton.mpr (LogRecord.isClear_iff.mpr (.inr (.inl rfl)))⟩
  obtain ⟨ends, -, front, stays, becomes, -⟩ := (encryptField_effect mixedBatch encryptor "log").2.1
    _ _ [[("log", .string "b")]] (.boolean true) rfl clear ⟨rfl, nofun, nofun⟩
  exact ⟨encryptor, front, accepted, ends, stays, becomes⟩

end Batch

end LogProbe
