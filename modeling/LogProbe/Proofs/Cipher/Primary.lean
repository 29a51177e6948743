/-
**The primary key among the enabled ones.** The primary of a cipher is the first key of its keyset
that has the primary identifier. Other keys may have that identifier too, but all of them come
later, so that no enabled key in front of the primary has its identifier, and none has its header.

* `Keyset.exists_of_primary` — where the primary key stands in its keyset.
* `Cipher.exists_loaded_primary`, `Cipher.exists_primary` — where it is found among the loaded keys,
  and what a cipher makes of it.
* `Keyset.Key.id_eq_of_header_eq` — a header that is not empty tells the identifier of its key.
-/

import LogProbe.Proofs.Cipher.Rotation

namespace LogProbe

/-! ### Headers and identifiers -/

/-- A word is the number of its four bytes. -/
theorem Bytes.toNat_bigEndian32 (word : UInt32) : toNat (bigEndian32 word) = word.toNat := by
  have bound := word.toNat_lt
  simp only [bigEndian32, toNat, List.foldl_cons, List.foldl_nil, UInt32.toNat_toUInt8,
    UInt32.toNat_shiftRight, Nat.shiftRight_eq_div_pow]
  simp only [UInt32.reduceToNat, Nat.reduceMod, Nat.reducePow]
  omega

theorem Bytes.bigEndian32_injective {first second : UInt32}
    (same : bigEndian32 first = bigEndian32 second) : first = second := by
  rw [← UInt32.toNat_inj, ← toNat_bigEndian32, same, toNat_bigEndian32]

/-- **A header that is not empty tells the identifier of its key**, whatever its kind. -/
theorem Keyset.Key.id_eq_of_header_eq {first second : Keyset.Key}
    (same : first.header = second.header) (headed : second.header ≠ []) : first.id = second.id := by
  have bytes : Bytes.bigEndian32 first.id = Bytes.bigEndian32 second.id := by
    unfold header at same headed
    cases kind : first.headerKind <;> cases other : second.headerKind <;>
      simp_all [HeaderKind.bytes]
  exact Bytes.bigEndian32_injective bytes

/-! ### The place of the primary key -/

namespace Keyset

/-- The primary key is enabled, and no key in front of it has its identifier. -/
theorem exists_of_primary {keyset : Keyset} {primary : Key} (found : keyset.primary = .ok primary) :
    ∃ before after, keyset.enabled = before ++ primary :: after ∧
      ∀ other ∈ before, other.id ≠ primary.id := by
  unfold Keyset.primary at found
  split at found
  · cases found
  · rename_i key first
    split at found
    · rename_i status
      cases found
      obtain ⟨matching, front, back, keys, others⟩ := List.find?_eq_some_iff_append.mp first
      have id : primary.id = keyset.primaryId := by simpa using matching
      refine ⟨front.filter fun key => key.status = .enabled,
        back.filter fun key => key.status = .enabled, ?_, ?_⟩
      · unfold enabled
        rw [keys, List.filter_append, List.filter_cons_of_pos (by simpa using status)]
      · intro other member same
        have different := others other (List.mem_filter.mp member).1
        rw [same, id] at different
        simp at different
    · cases found

end Keyset

namespace Cipher

theorem id_of_load {key : Keyset.Key} {ready : LoadedKey} (loaded : load key = .ok ready) :
    ready.id = key.id := by
  unfold load at loaded
  split at loaded
  · cases loaded
  · split at loaded
    · cases loaded
    · cases loaded
      rfl

/-- A loaded key is found by its identifier behind keys with other identifiers. -/
theorem find?_behind {before : List Keyset.Key} {front : List LoadedKey} {id : UInt32}
    (others : ∀ other ∈ before, other.id ≠ id) (loadedFront : loadAll before = .ok front)
    {ready : LoadedKey} (own : ready.id = id) (back : List LoadedKey) :
    (front ++ ready :: back).find? (fun key => key.id = id) = some ready := by
  have none : front.find? (fun key => key.id = id) = none := by
    refine List.find?_eq_none.mpr fun loaded member => ?_
    obtain ⟨other, inside, source⟩ := exists_of_mem_loadAll loadedFront member
    simpa [id_of_load source] using others other inside
  rw [List.find?_append, none, Option.none_or, List.find?_cons_of_pos (by simpa using own)]

/-- **The primary key is found among the loaded ones in its own place**: no key in front of it has
its identifier, before loading or after it. -/
theorem exists_loaded_primary {keyset : Keyset} {primary : Keyset.Key} {keys : List LoadedKey}
    (found : keyset.primary = .ok primary) (all : loadAll keyset.enabled = .ok keys) :
    ∃ before after front ready back, keyset.enabled = before ++ primary :: after ∧
      (∀ other ∈ before, other.id ≠ primary.id) ∧ keys = front ++ ready :: back ∧
      loadAll before = .ok front ∧ load primary = .ok ready ∧
      keys.find? (fun key => key.id = primary.id) = some ready := by
  obtain ⟨before, after, enabled, others⟩ := Keyset.exists_of_primary found
  rw [enabled] at all
  obtain ⟨front, ready, back, split, loadedFront, loadedPrimary, -⟩ := loadAll_append_eq_ok all
  refine ⟨before, after, front, ready, back, enabled, others, split, loadedFront, loadedPrimary, ?_⟩
  rw [split]
  exact find?_behind others loadedFront (id_of_load loadedPrimary) back

/-- A keyset whose primary key is enabled and whose enabled keys load gives a cipher. -/
theorem ofKeyset_of_loaded {keyset : Keyset} {primary : Keyset.Key} {keys : List LoadedKey}
    {ready : LoadedKey} (found : keyset.primary = .ok primary)
    (all : loadAll keyset.enabled = .ok keys)
    (first : keys.find? (fun key => key.id = primary.id) = some ready) :
    ofKeyset keyset = .ok ⟨ready, keys⟩ := by
  simp only [ofKeyset, found, all, bind, Except.bind, first]

/-- **The primary of a cipher is the primary key of its keyset**, which stands behind enabled keys
with other identifiers. -/
theorem exists_primary {keyset : Keyset} {cipher : Cipher}
    (accepted : ofKeyset keyset = .ok cipher) :
    ∃ primary before after, keyset.primary = .ok primary ∧
      keyset.enabled = before ++ primary :: after ∧
      (∀ other ∈ before, other.id ≠ primary.id) ∧ load primary = .ok cipher.primary := by
  have all := loadAll_enabled accepted
  cases found : keyset.primary with
  | error error =>
    unfold ofKeyset at accepted
    rw [found] at accepted
    cases accepted
  | ok primary =>
    obtain ⟨before, after, -, ready, -, enabled, others, -, -, loadedPrimary, first⟩ :=
      exists_loaded_primary found all
    have same : cipher = ⟨ready, cipher.keys⟩ :=
      Except.ok.inj (accepted.symm.trans (ofKeyset_of_loaded found all first))
    rw [same]
    exact ⟨primary, before, after, rfl, enabled, others, loadedPrimary⟩

end Cipher

end LogProbe
