/-
**What a cipher is loaded with.** A keyset is accepted if the first key with the primary identifier
is in use and every key in use has valid material; keys that are not in use are not even read. The
primary is looked up twice, among all keys and then among the loaded ones, and both times the same
key is found, also where identifiers repeat.

* `Keyset.IsLeading` — the first key with the primary identifier, whatever its status.
* `Cipher.Loads`, `Cipher.IsLoadedFrom` — what a loaded key and a cipher take from a keyset.
* `Cipher.IsFlaw` — why a keyset is refused.
* `Keyset.AgreesInUse` — keysets that differ in the data of keys that are not in use.
* `Cipher.ofKeyset_loads` — the law.
-/

import LogProbe.Proofs.Cipher.Acceptance
import LogProbe.Proofs.Keyset.Material
import Mathlib.Data.List.Forall2

namespace LogProbe

/-! ### The leading key -/

namespace Keyset

/-- The first key with the primary identifier, whatever its status. -/
def IsLeading (keyset : Keyset) (key : Key) : Prop :=
  ∃ before after, keyset.keys = before ++ key :: after ∧ key.id = keyset.primaryId ∧
    ∀ other ∈ before, other.id ≠ keyset.primaryId

variable {keyset : Keyset}

theorem IsLeading.id_eq {key : Key} (leads : keyset.IsLeading key) : key.id = keyset.primaryId := by
  obtain ⟨-, -, -, own, -⟩ := leads
  exact own

theorem find?_eq_some_iff_isLeading {key : Key} :
    (keyset.keys.find? fun key => key.id = keyset.primaryId) = some key ↔
      keyset.IsLeading key := by
  rw [List.find?_eq_some_iff_append]
  constructor
  · rintro ⟨matching, before, after, split, others⟩
    exact ⟨before, after, split, by simpa using matching,
      fun other member => by simpa using others other member⟩
  · rintro ⟨before, after, split, matching, others⟩
    exact ⟨by simpa using matching, before, after, split,
      fun other member => by simpa using others other member⟩

theorem primary_eq_ok_iff {key : Key} :
    keyset.primary = .ok key ↔ keyset.IsLeading key ∧ key.status = .enabled := by
  rw [← find?_eq_some_iff_isLeading]
  unfold primary
  cases keyset.keys.find? fun key => key.id = keyset.primaryId with
  | none => simp
  | some found =>
    by_cases inUse : found.status = .enabled
    · simp only [if_pos inUse, Except.ok.injEq, Option.some.injEq]
      exact ⟨fun same => ⟨same, same ▸ inUse⟩, And.left⟩
    · simp only [if_neg inUse, reduceCtorEq, false_iff]
      rintro ⟨same, other⟩
      cases same
      exact inUse other

theorem primary_eq_error_iff {error : Error} :
    keyset.primary = .error error ↔
      (∀ key ∈ keyset.keys, key.id ≠ keyset.primaryId) ∧
          error = .missingPrimary keyset.primaryId ∨
        ∃ key, keyset.IsLeading key ∧ key.status ≠ .enabled ∧
          error = .primaryNotEnabled keyset.primaryId := by
  have absent : (∀ key ∈ keyset.keys, key.id ≠ keyset.primaryId) ↔
      (keyset.keys.find? fun key => key.id = keyset.primaryId) = none := by
    simp [List.find?_eq_none]
  simp only [absent, ← find?_eq_some_iff_isLeading]
  unfold primary
  cases found : keyset.keys.find? fun key => key.id = keyset.primaryId with
  | none => simp [eq_comm]
  | some key =>
    have id : key.id = keyset.primaryId := by simpa using List.find?_some found
    by_cases inUse : key.status = .enabled
    · simp [inUse]
    · simp only [if_neg inUse, id]
      constructor
      · intro failed
        cases failed
        exact .inr ⟨key, rfl, inUse, rfl⟩
      · rintro (⟨missing, -⟩ | ⟨other, -, -, rfl⟩)
        · cases missing
        · rfl

end Keyset

namespace Cipher

/-! ### Loaded keys -/

/-- Material that was accepted has the length of a key. -/
theorem length_of_material {key : Keyset.Key} {bytes : Bytes} (found : key.material = .ok bytes) :
    bytes.length = Siv.keyLength :=
  (Keyset.Key.material_eq_ok_iff.mp found).2.1

/-- A key that is ready for use has the identifier, the header and the material of the key of the
keyset. -/
structure Loads (key : Keyset.Key) (ready : LoadedKey) : Prop where
  id : ready.id = key.id
  header : ready.header = key.header
  material : key.material = .ok ready.key.bytes

theorem load_eq_ok_iff {key : Keyset.Key} {ready : LoadedKey} :
    load key = .ok ready ↔ Loads key ready := by
  constructor
  · intro loaded
    exact ⟨id_of_load loaded, (load_eq_ok loaded).1, (load_eq_ok loaded).2⟩
  · intro loads
    unfold load
    simp only [loads.material, Siv.Key.ofBytes?, dif_pos ready.key.length_eq, ← loads.id,
      ← loads.header]

/-- A key cannot be made ready exactly if its material cannot be read. -/
theorem load_eq_error_iff {key : Keyset.Key} {error : Error} :
    load key = .error error ↔ ∃ cause, key.material = .error cause ∧ error = .keyset cause := by
  cases read : key.material with
  | error cause => simp [load, read, eq_comm]
  | ok bytes =>
    simp [load, read, Siv.Key.ofBytes?, length_of_material read]

theorem loadAll_eq_ok_iff {keys : List Keyset.Key} {loaded : List LoadedKey} :
    loadAll keys = .ok loaded ↔ List.Forall₂ Loads keys loaded := by
  constructor
  · intro all
    induction keys generalizing loaded with
    | nil =>
      cases all
      exact .nil
    | cons key rest ih =>
      obtain ⟨ready, others, rfl, first, remaining⟩ := loadAll_cons_eq_ok all
      exact .cons (load_eq_ok_iff.mp first) (ih remaining)
  · intro all
    induction all with
    | nil => rfl
    | cons loads _ ih =>
      rw [loadAll, load_eq_ok_iff.mpr loads, ih]
      rfl

/-- **The error of the first key that cannot be made ready** is that of them all. -/
theorem loadAll_eq_error_iff {keys : List Keyset.Key} {error : Error} :
    loadAll keys = .error error ↔ ∃ before key after cause, keys = before ++ key :: after ∧
      (∀ other ∈ before, ∃ bytes, other.material = .ok bytes) ∧
      key.material = .error cause ∧ error = .keyset cause := by
  induction keys with
  | nil => simp [loadAll]
  | cons first rest ih =>
    rw [loadAll]
    cases loaded : load first with
    | error other =>
      obtain ⟨cause, refused, rfl⟩ := load_eq_error_iff.mp loaded
      constructor
      · intro failed
        cases failed
        exact ⟨[], first, rest, cause, rfl, List.forall_mem_nil _, refused, rfl⟩
      · rintro ⟨before, key, after, found, split, sound, refusedHere, rfl⟩
        cases before with
        | nil =>
          cases split
          cases refused.symm.trans refusedHere
          rfl
        | cons leading before =>
          cases split
          obtain ⟨bytes, read⟩ := sound _ List.mem_cons_self
          cases refused.symm.trans read
    | ok ready =>
      have read := (load_eq_ok loaded).2
      have later : (loadAll rest >>= fun others => .ok (ready :: others)) = .error error ↔
          loadAll rest = .error error := by
        cases loadAll rest <;> simp [bind, Except.bind]
      refine (later.trans ih).trans ⟨?_, ?_⟩
      · rintro ⟨before, key, after, cause, rfl, sound, refused⟩
        exact ⟨first :: before, key, after, cause, rfl,
          List.forall_mem_cons.mpr ⟨⟨_, read⟩, sound⟩, refused⟩
      · rintro ⟨before, key, after, cause, split, sound, refused, same⟩
        cases before with
        | nil =>
          cases split
          cases read.symm.trans refused
        | cons leading before =>
          cases split
          exact ⟨before, key, after, cause, rfl, (List.forall_mem_cons.mp sound).2, refused, same⟩

/-! ### Ciphers -/

/-- What a cipher takes from a keyset: its keys are those in use, in their order, and its primary
stands among them where the leading key stands. -/
structure IsLoadedFrom (keyset : Keyset) (cipher : Cipher) : Prop where
  keys : List.Forall₂ Loads keyset.enabled cipher.keys
  primary : ∃ leading before after front back, keyset.IsLeading leading ∧
    keyset.enabled = before ++ leading :: after ∧ cipher.keys = front ++ cipher.primary :: back ∧
    front.length = before.length ∧ Loads leading cipher.primary ∧
    ∀ other ∈ before, other.id ≠ keyset.primaryId

/-- Why a keyset is refused. The leading key comes first, and then the first key in use whose
material cannot be read. -/
inductive IsFlaw (keyset : Keyset) : Keyset.Error → Prop
  | missing (absent : ∀ key ∈ keyset.keys, key.id ≠ keyset.primaryId) :
      IsFlaw keyset (.missingPrimary keyset.primaryId)
  | notEnabled {leading : Keyset.Key} (leads : keyset.IsLeading leading)
      (retired : leading.status ≠ .enabled) : IsFlaw keyset (.primaryNotEnabled keyset.primaryId)
  | material {leading key : Keyset.Key} {before after : List Keyset.Key} {cause : Keyset.Error}
      (leads : keyset.IsLeading leading) (inUse : leading.status = .enabled)
      (split : keyset.enabled = before ++ key :: after)
      (sound : ∀ other ∈ before, ∃ bytes, other.material = .ok bytes)
      (refused : key.material = .error cause) : IsFlaw keyset cause

section Ciphers

variable {keyset : Keyset}

/-- The result for a keyset whose primary key is found. -/
theorem ofKeyset_of_primary {primary : Keyset.Key} (found : keyset.primary = .ok primary) :
    (∃ keys ready, loadAll keyset.enabled = .ok keys ∧
        keys.find? (fun key => key.id = primary.id) = some ready ∧
        ofKeyset keyset = .ok ⟨ready, keys⟩) ∨
      ∃ error, loadAll keyset.enabled = .error error ∧ ofKeyset keyset = .error error := by
  cases all : loadAll keyset.enabled with
  | ok keys =>
    obtain ⟨-, -, -, ready, -, -, -, -, -, -, first⟩ := exists_loaded_primary found all
    exact .inl ⟨keys, ready, rfl, first, ofKeyset_of_loaded found all first⟩
  | error error =>
    refine .inr ⟨error, rfl, ?_⟩
    simp only [ofKeyset, found, all, bind, Except.bind]

theorem ofKeyset_of_primary_error {cause : Keyset.Error} (failed : keyset.primary = .error cause) :
    ofKeyset keyset = .error (.keyset cause) := by
  simp only [ofKeyset, failed]

/-- **A cipher is what is loaded from its keyset.** -/
theorem ofKeyset_eq_ok_iff {cipher : Cipher} :
    ofKeyset keyset = .ok cipher ↔ IsLoadedFrom keyset cipher := by
  constructor
  · intro accepted
    have all := loadAll_enabled accepted
    obtain ⟨leading, -, -, found, -⟩ := exists_primary accepted
    obtain ⟨before, after, front, ready, back, enabled, others, split, loadedFront, loaded,
      first⟩ := exists_loaded_primary found all
    have same : cipher = ⟨ready, cipher.keys⟩ :=
      Except.ok.inj (accepted.symm.trans (ofKeyset_of_loaded found all first))
    have own : cipher.primary = ready := congrArg Cipher.primary same
    have leads := (Keyset.primary_eq_ok_iff.mp found).1
    refine ⟨loadAll_eq_ok_iff.mp all, leading, before, after, front, back, leads, enabled,
      own.symm ▸ split, (loadAll_eq_ok_iff.mp loadedFront).length_eq.symm,
      own.symm ▸ load_eq_ok_iff.mp loaded, ?_⟩
    rw [← leads.id_eq]
    exact others
  · intro loaded
    obtain ⟨leading, before, after, front, back, leads, enabled, split, length, loads, others⟩ :=
      loaded.primary
    have inside : leading ∈ keyset.enabled := by
      rw [enabled]
      exact List.mem_append_cons_self
    have inUse : leading.status = .enabled := by
      simpa using (List.mem_filter.mp inside).2
    have found := Keyset.primary_eq_ok_iff.mpr ⟨leads, inUse⟩
    -- the loaded keys in front of the primary come from keys with other identifiers
    have loadedFront : loadAll before = .ok front := by
      refine loadAll_eq_ok_iff.mpr ?_
      have leadingKeys := List.forall₂_take before.length loaded.keys
      rwa [enabled, split, List.take_left, ← length, List.take_left] at leadingKeys
    have first : cipher.keys.find? (fun key => key.id = leading.id) = some cipher.primary := by
      rw [← leads.id_eq] at others
      rw [split]
      exact find?_behind others loadedFront loads.id back
    exact ofKeyset_of_loaded found (loadAll_eq_ok_iff.mpr loaded.keys) first

/-- **A keyset is refused for its first flaw.** -/
theorem ofKeyset_eq_error_iff {error : Error} :
    ofKeyset keyset = .error error ↔ ∃ cause, error = .keyset cause ∧ IsFlaw keyset cause := by
  constructor
  · intro refused
    cases found : keyset.primary with
    | error cause =>
      refine ⟨cause, Except.error.inj (refused.symm.trans (ofKeyset_of_primary_error found)), ?_⟩
      obtain ⟨absent, rfl⟩ | ⟨leading, leads, retired, rfl⟩ := Keyset.primary_eq_error_iff.mp found
      · exact .missing absent
      · exact .notEnabled leads retired
    | ok leading =>
      obtain ⟨leads, inUse⟩ := Keyset.primary_eq_ok_iff.mp found
      obtain ⟨keys, ready, -, -, accepted⟩ | ⟨other, failed, same⟩ := ofKeyset_of_primary found
      · cases accepted.symm.trans refused
      · cases same.symm.trans refused
        obtain ⟨before, key, after, cause, split, sound, unread, rfl⟩ :=
          loadAll_eq_error_iff.mp failed
        exact ⟨cause, rfl, .material leads inUse split sound unread⟩
  · rintro ⟨cause, rfl, flaw⟩
    cases flaw with
    | missing absent =>
      exact ofKeyset_of_primary_error (Keyset.primary_eq_error_iff.mpr (.inl ⟨absent, rfl⟩))
    | notEnabled leads retired =>
      exact ofKeyset_of_primary_error
        (Keyset.primary_eq_error_iff.mpr (.inr ⟨_, leads, retired, rfl⟩))
    | material leads inUse split sound unread =>
      have failed := loadAll_eq_error_iff.mpr ⟨_, _, _, _, split, sound, unread, rfl⟩
      obtain ⟨keys, ready, all, -⟩ | ⟨other, unloaded, same⟩ :=
        ofKeyset_of_primary (Keyset.primary_eq_ok_iff.mpr ⟨leads, inUse⟩)
      · cases all.symm.trans failed
      · rw [same, Except.error.inj (unloaded.symm.trans failed)]

/-- **A keyset is accepted** if its leading key is in use and all keys in use can be read. -/
theorem exists_ofKeyset_iff :
    (∃ cipher, ofKeyset keyset = .ok cipher) ↔
      (∃ leading, keyset.IsLeading leading ∧ leading.status = .enabled) ∧
        ∀ key ∈ keyset.keys, key.status = .enabled → ∃ bytes, key.material = .ok bytes := by
  constructor
  · rintro ⟨cipher, accepted⟩
    obtain ⟨leading, -, -, found, -⟩ := exists_primary accepted
    refine ⟨⟨leading, Keyset.primary_eq_ok_iff.mp found⟩, fun key member inUse => ?_⟩
    have inside : key ∈ keyset.enabled := List.mem_filter.mpr ⟨member, by simpa using inUse⟩
    obtain ⟨ready, -, loaded⟩ := exists_load_of_mem (loadAll_enabled accepted) inside
    exact ⟨ready.key.bytes, (load_eq_ok loaded).2⟩
  · rintro ⟨⟨leading, leads, inUse⟩, sound⟩
    obtain ⟨keys, ready, -, -, accepted⟩ | ⟨error, failed, -⟩ :=
      ofKeyset_of_primary (Keyset.primary_eq_ok_iff.mpr ⟨leads, inUse⟩)
    · exact ⟨_, accepted⟩
    · obtain ⟨before, key, after, cause, split, -, unread, -⟩ := loadAll_eq_error_iff.mp failed
      have inside : key ∈ keyset.enabled := by
        rw [split]
        exact List.mem_append_cons_self
      obtain ⟨member, inUse⟩ := List.mem_filter.mp inside
      obtain ⟨bytes, read⟩ := sound key member (by simpa using inUse)
      cases read.symm.trans unread

end Ciphers

/-- The primary key is always among the loaded ones. -/
theorem ofKeyset_ne_primaryNotLoaded (keyset : Keyset) (id : UInt32) :
    ofKeyset keyset ≠ .error (.primaryNotLoaded id) := by
  intro refused
  obtain ⟨cause, same, -⟩ := ofKeyset_eq_error_iff.mp refused
  cases same

/-- **Material that was accepted always makes a key**: its length is that of a key. -/
theorem ofKeyset_ne_unusableKey (keyset : Keyset) (id : UInt32) :
    ofKeyset keyset ≠ .error (.unusableKey id) := by
  intro refused
  obtain ⟨cause, same, -⟩ := ofKeyset_eq_error_iff.mp refused
  cases same

end Cipher

/-! ### Keys that are not in use -/

namespace Keyset

/-- The same key, unless it is not in use: then its data may be any other. -/
def Key.AgreesInUse (key other : Key) : Prop :=
  other = key ∨ key.status ≠ .enabled ∧ ∃ data, other = { key with data := data }

/-- Two keysets that differ at most in the data of keys that are not in use. -/
structure AgreesInUse (keyset other : Keyset) : Prop where
  primaryId : other.primaryId = keyset.primaryId
  keys : List.Forall₂ Key.AgreesInUse keyset.keys other.keys

theorem Key.AgreesInUse.id_eq {key other : Key} (agrees : key.AgreesInUse other) :
    other.id = key.id := by
  obtain rfl | ⟨-, data, rfl⟩ := agrees <;> rfl

theorem Key.AgreesInUse.status_eq {key other : Key} (agrees : key.AgreesInUse other) :
    other.status = key.status := by
  obtain rfl | ⟨-, data, rfl⟩ := agrees <;> rfl

theorem Key.AgreesInUse.eq_of_enabled {key other : Key} (agrees : key.AgreesInUse other)
    (inUse : key.status = .enabled) : other = key := by
  obtain rfl | ⟨retired, -⟩ := agrees
  · rfl
  · exact absurd inUse retired

/-- The keys in use are the same. -/
theorem filter_enabled_of_agreesInUse {keys others : List Key}
    (agree : List.Forall₂ Key.AgreesInUse keys others) :
    others.filter (fun key => key.status = .enabled) =
      keys.filter fun key => key.status = .enabled := by
  induction agree with
  | nil => rfl
  | @cons key other _ _ same _ ih =>
    by_cases inUse : key.status = .enabled
    · rw [List.filter_cons_of_pos (by simpa [same.status_eq] using inUse),
        List.filter_cons_of_pos (by simpa using inUse), ih, same.eq_of_enabled inUse]
    · rw [List.filter_cons_of_neg (by simpa [same.status_eq] using inUse),
        List.filter_cons_of_neg (by simpa using inUse), ih]

/-- The first key with an identifier stands at the same place in both. -/
theorem find?_rel_of_agreesInUse {keys others : List Key} (id : UInt32)
    (agree : List.Forall₂ Key.AgreesInUse keys others) :
    Option.Rel Key.AgreesInUse (keys.find? fun key => key.id = id)
      (others.find? fun key => key.id = id) := by
  induction agree with
  | nil => exact .none
  | @cons key other _ _ same _ ih =>
    by_cases matching : key.id = id
    · rw [List.find?_cons_of_pos (by simpa using matching),
        List.find?_cons_of_pos (by simpa [same.id_eq] using matching)]
      exact .some same
    · rw [List.find?_cons_of_neg (by simpa using matching),
        List.find?_cons_of_neg (by simpa [same.id_eq] using matching)]
      exact ih

theorem AgreesInUse.primary_eq {keyset other : Keyset} (agrees : keyset.AgreesInUse other) :
    other.primary = keyset.primary := by
  have related := find?_rel_of_agreesInUse keyset.primaryId agrees.keys
  unfold primary
  rw [agrees.primaryId]
  generalize keyset.keys.find? (fun key => key.id = keyset.primaryId) = first,
    other.keys.find? (fun key => key.id = keyset.primaryId) = second at related ⊢
  cases related with
  | none => rfl
  | @some key other same =>
    by_cases inUse : key.status = .enabled
    · rw [same.eq_of_enabled inUse]
    · simp only [same.status_eq, same.id_eq, if_neg inUse]

end Keyset

namespace Cipher

/-- **Keys that are not in use are not read.** -/
theorem ofKeyset_of_agreesInUse {keyset other : Keyset} (agrees : keyset.AgreesInUse other) :
    ofKeyset other = ofKeyset keyset := by
  have enabled : other.enabled = keyset.enabled := Keyset.filter_enabled_of_agreesInUse agrees.keys
  unfold ofKeyset
  rw [agrees.primary_eq, enabled]

/-! ### The law -/

/-- **What a cipher is loaded with.** A keyset is accepted exactly if its leading key is in use and
the material of every key in use can be read. Its cipher then has exactly the keys in use, in their
order and with their own headers and material, and the leading key as its primary. Otherwise the
error is that of the leading key, or else that of the first key in use whose material cannot be
read, and never that the primary was not loaded. The data of other keys plays no part. -/
theorem ofKeyset_loads (keyset : Keyset) :
    ((∃ cipher, ofKeyset keyset = .ok cipher) ↔
      (∃ leading, keyset.IsLeading leading ∧ leading.status = .enabled) ∧
        ∀ key ∈ keyset.keys, key.status = .enabled → ∃ bytes, key.material = .ok bytes) ∧
    (∀ cipher, ofKeyset keyset = .ok cipher ↔ IsLoadedFrom keyset cipher) ∧
    (∀ error, ofKeyset keyset = .error error ↔
      ∃ cause, error = .keyset cause ∧ IsFlaw keyset cause) ∧
    (∀ id, ofKeyset keyset ≠ .error (.primaryNotLoaded id)) ∧
    ∀ other, keyset.AgreesInUse other → ofKeyset other = ofKeyset keyset :=
  ⟨exists_ofKeyset_iff, fun _ => ofKeyset_eq_ok_iff, fun _ => ofKeyset_eq_error_iff,
    ofKeyset_ne_primaryNotLoaded keyset, fun _ => ofKeyset_of_agreesInUse⟩

/-- Two keys in use share the identifier of the primary, behind a key that is not in use. -/
def repeatedKeyset (data : KeyData) : Keyset :=
  ⟨2, [⟨data, .disabled, 1, .tink⟩, ⟨sampleData, .enabled, 2, .crunchy⟩,
    ⟨sampleData, .enabled, 2, .raw⟩]⟩

/-- The first of the two is the primary, and the key that is not in use need not be readable. -/
theorem ofKeyset_loads_repeated :
    ∃ cipher, ofKeyset (repeatedKeyset ⟨"", "", ""⟩) = .ok cipher ∧
      ofKeyset (repeatedKeyset sampleData) = .ok cipher ∧ cipher.keys.length = 2 ∧
      cipher.primary.header = [0, 0, 0, 0, 2] := by
  obtain ⟨accepts, contents, -, -, unread⟩ := ofKeyset_loads (repeatedKeyset ⟨"", "", ""⟩)
  have leads : (repeatedKeyset ⟨"", "", ""⟩).IsLeading ⟨sampleData, .enabled, 2, .crunchy⟩ :=
    Keyset.find?_eq_some_iff_isLeading.mp rfl
  have sound : ∀ key ∈ (repeatedKeyset ⟨"", "", ""⟩).keys, key.status = .enabled →
      key.material.isOk = true := by
    decide +kernel
  obtain ⟨cipher, accepted⟩ := accepts.mpr ⟨⟨_, leads, rfl⟩, fun key member inUse => by
    have read := sound key member inUse
    cases found : key.material with
    | ok bytes => exact ⟨bytes, rfl⟩
    | error error =>
      rw [found] at read
      cases read⟩
  have loaded := (contents cipher).mp accepted
  obtain ⟨leading, -, -, -, -, first, -, -, -, loads, -⟩ := loaded.primary
  cases (Keyset.find?_eq_some_iff_isLeading.mpr leads).symm.trans
    (Keyset.find?_eq_some_iff_isLeading.mpr first)
  have agrees : (repeatedKeyset ⟨"", "", ""⟩).AgreesInUse (repeatedKeyset sampleData) :=
    ⟨rfl, .cons (.inr ⟨by decide, sampleData, rfl⟩) (.cons (.inl rfl) (.cons (.inl rfl) .nil))⟩
  exact ⟨cipher, accepted, (unread _ agrees).trans accepted, loaded.keys.length_eq.symm,
    loads.header⟩

end Cipher

end LogProbe
