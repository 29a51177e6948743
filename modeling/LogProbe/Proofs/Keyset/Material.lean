/-
**Key material comes back.** Material that is stored with a key is found again, whatever fields of
other kinds come after it, and is accepted exactly if its version is zero and it has the length of a
key. Nothing of another length is ever accepted.

* `Wire.KeyMaterial.read?_write_append` — the material of a message of its own fields and others.
* `Keyset.Key.material_eq_ok_iff` — the material that is accepted.
* `Wire.IsForeign` — a row of fields with other numbers than those of key material.
* `Keyset.Key.material_comes_back` — the law.
-/

import LogProbe.Keyset.Basic
import LogProbe.Proofs.Base64.Canonical
import LogProbe.Proofs.Wire.Message

namespace LogProbe

/-! ### Messages -/

namespace Wire

/-- A row of well-formed fields, none of which is a field of key material. -/
def IsForeign (bytes : Bytes) : Prop :=
  ∃ fields, IsMessageOf fields bytes ∧ ∀ field ∈ fields, field.number ≠ 1 ∧ field.number ≠ 2

namespace KeyMaterial

/-- Fields with other numbers are passed over. -/
theorem foldlM_take?_of_foreign {fields : List Field}
    (foreign : ∀ field ∈ fields, field.number ≠ 1 ∧ field.number ≠ 2) (material : KeyMaterial) :
    fields.foldlM take? material = some material := by
  induction fields with
  | nil => rfl
  | cons field rest ih =>
    obtain ⟨other, foreign⟩ := List.forall_mem_cons.mp foreign
    rw [List.foldlM_cons, take?, if_neg other.1, if_neg other.2]
    exact ih foreign

/-- Material is put together from its own fields; what is left out is what it was before. -/
theorem foldlM_take?_fields (material : KeyMaterial) :
    material.fields.foldlM take? blank = some material := by
  obtain ⟨version, value⟩ := material
  have number : UInt32.ofNat version.toNat = version := UInt32.ofNat_toNat
  by_cases zero : version = 0
  · by_cases nothing : value = []
    · simp [fields, zero, nothing, blank]
    · simp [fields, zero, nothing, blank, take?]
  · by_cases nothing : value = []
    · simp [fields, zero, nothing, blank, take?, number]
    · simp [fields, zero, nothing, blank, take?, number]

theorem isMessageOf_write {material : KeyMaterial} (fits : material.value.length < UInt64.size) :
    IsMessageOf material.fields material.write := by
  refine isMessageOf_writeFields fun field member => ?_
  rcases List.mem_append.mp member with member | member
  · split at member
    · cases member
    · cases List.mem_singleton.mp member
      have version := material.version.toNat_lt
      exact ⟨show 0 < 1 by decide, show 8 * 1 + 7 < UInt32.size by decide,
        Nat.lt_trans version (by decide)⟩
  · split at member
    · cases member
    · cases List.mem_singleton.mp member
      exact ⟨show 0 < 2 by decide, show 8 * 2 + 7 < UInt32.size by decide, fits⟩

/-- **Material is read from its own message**, whatever fields with other numbers come after it. -/
theorem read?_write_append {material : KeyMaterial} (fits : material.value.length < UInt64.size)
    {foreign : Bytes} (others : IsForeign foreign) :
    read? (material.write ++ foreign) = some material := by
  obtain ⟨fields, message, numbers⟩ := others
  unfold read?
  rw [readFields?_of_isMessageOf ((isMessageOf_write fits).append message)]
  simp only [Option.bind_eq_bind, Option.bind_some, List.foldlM_append, foldlM_take?_fields,
    foldlM_take?_of_foreign numbers]

end KeyMaterial

end Wire

/-! ### Keys -/

namespace Keyset.Key

/-- Material that is found is judged by its version first and then by its length. -/
theorem material_of_read {key : Key} {message bytes : Bytes} {version : UInt32}
    (type : key.data.typeUrl = sivTypeUrl) (decoded : Base64.decode? key.data.value = some message)
    (read : Wire.KeyMaterial.read? message = some ⟨version, bytes⟩) :
    key.material =
      if version ≠ 0 then .error (.unsupportedVersion key.id version)
      else if bytes.length ≠ Siv.keyLength then .error (.invalidLength key.id bytes.length)
      else .ok bytes := by
  unfold material
  rw [if_neg (not_not.mpr type), decoded]
  simp only [read]

/-- **The material that is accepted**: it is that of a message whose version is zero, for a key of
the supported kind, and has the length of a key. -/
theorem material_eq_ok_iff {key : Key} {bytes : Bytes} :
    key.material = .ok bytes ↔ key.data.typeUrl = sivTypeUrl ∧ bytes.length = Siv.keyLength ∧
      ∃ message, Base64.decode? key.data.value = some message ∧
        Wire.KeyMaterial.read? message = some ⟨0, bytes⟩ := by
  constructor
  · intro accepted
    unfold material at accepted
    split at accepted
    · cases accepted
    · rename_i type
      split at accepted
      · cases accepted
      · rename_i message decoded
        split at accepted
        · cases accepted
        · rename_i stored read
          obtain ⟨version, value⟩ := stored
          split at accepted
          · cases accepted
          · rename_i zero
            split at accepted
            · cases accepted
            · rename_i length
              cases accepted
              cases not_not.mp zero
              exact ⟨not_not.mp type, not_not.mp length, message, decoded, read⟩
  · rintro ⟨type, length, message, decoded, read⟩
    rw [material_of_read type decoded read, if_neg (not_not.mpr rfl), if_neg (not_not.mpr length)]

/-- **Key material comes back.** A key of the supported kind whose value is the text of stored
material, of any length that has 64 bits, followed by any fields of other kinds, gives that material
if its version is zero and it has sixty-four bytes. Another version is named, whatever the length
is; with version zero another length is named. Whatever the value of a key is, the material that it
gives has sixty-four bytes, and the key is of the supported kind. -/
theorem material_comes_back :
    (∀ (key : Key) (version : UInt32) (bytes foreign : Bytes),
      bytes.length < UInt64.size → Wire.IsForeign foreign → key.data.typeUrl = sivTypeUrl →
      key.data.value =
        Base64.encode ((⟨version, bytes⟩ : Wire.KeyMaterial).write ++ foreign) →
      (version = 0 → bytes.length = 64 → key.material = .ok bytes) ∧
      (version ≠ 0 → key.material = .error (.unsupportedVersion key.id version)) ∧
      (version = 0 → bytes.length ≠ 64 →
        key.material = .error (.invalidLength key.id bytes.length))) ∧
    ∀ (key : Key) (bytes : Bytes), key.material = .ok bytes →
      bytes.length = 64 ∧ key.data.typeUrl = sivTypeUrl := by
  constructor
  · intro key version bytes foreign fits others type value
    have decoded : Base64.decode? key.data.value =
        some ((⟨version, bytes⟩ : Wire.KeyMaterial).write ++ foreign) := by
      rw [value, Base64.decode?_encode]
    rw [material_of_read type decoded (Wire.KeyMaterial.read?_write_append fits others)]
    refine ⟨fun zero length => ?_, fun other => if_pos other, fun zero length => ?_⟩
    · have full : ¬ bytes.length ≠ Siv.keyLength := not_not.mpr length
      rw [if_neg (not_not.mpr zero), if_neg full]
    · have other : bytes.length ≠ Siv.keyLength := length
      rw [if_neg (not_not.mpr zero), if_pos other]
  · intro key bytes accepted
    obtain ⟨type, length, -⟩ := material_eq_ok_iff.mp accepted
    exact ⟨length, type⟩

/-- A number in two groups of which one would do, eight bytes, a text and four bytes. -/
def foreignFields : Bytes :=
  [0x18, 0x85, 0x00] ++ [0x21, 1, 2, 3, 4, 5, 6, 7, 8] ++ [0x2A, 0x02, 0x61, 0x62] ++
    [0x35, 1, 2, 3, 4]

theorem isForeign_foreignFields : Wire.IsForeign foreignFields := by
  have key {number : Nat} {form : Wire.Form} {bytes : Bytes}
      (read : Wire.readVarint? bytes = some (8 * number + form.code, [])) (positive : 0 < number)
      (fits : 8 * number + form.code < UInt32.size) : Wire.IsKey number form bytes :=
    ⟨Wire.isVarint_of_readVarint? read, positive, fits⟩
  have number : Wire.Field.Spelling ⟨3, .varint 5⟩ [0x18, 0x85, 0x00] :=
    ⟨.varint, [0x18], _, key rfl (by decide) (by decide),
      .varint (Wire.isVarint_of_readVarint? rfl), rfl⟩
  have long : Wire.Field.Spelling ⟨4, .fixed64 [1, 2, 3, 4, 5, 6, 7, 8]⟩
      [0x21, 1, 2, 3, 4, 5, 6, 7, 8] :=
    ⟨.fixed64, [0x21], _, key rfl (by decide) (by decide), .fixed64 rfl, rfl⟩
  have two : Wire.IsVarint 2 [0x02] := Wire.isVarint_of_readVarint? rfl
  have text : Wire.Field.Spelling ⟨5, .delimited [0x61, 0x62]⟩ [0x2A, 0x02, 0x61, 0x62] :=
    ⟨.delimited, [0x2A], _, key rfl (by decide) (by decide),
      .delimited two, rfl⟩
  have short : Wire.Field.Spelling ⟨6, .fixed32 [1, 2, 3, 4]⟩ [0x35, 1, 2, 3, 4] :=
    ⟨.fixed32, [0x35], _, key rfl (by decide) (by decide), .fixed32 rfl, rfl⟩
  refine ⟨_, ⟨_, .cons number (.cons long (.cons text (.cons short .nil))), rfl⟩, ?_⟩
  decide

/-- A key with material of a version, and with foreign fields behind it. -/
def storedKey (version : UInt32) (bytes : Bytes) : Key :=
  ⟨⟨sivTypeUrl, Base64.encode ((⟨version, bytes⟩ : Wire.KeyMaterial).write ++ foreignFields),
    "SYMMETRIC"⟩, .enabled, 7, .tink⟩

/-- Sixty-four bytes come back; another version and another length are named. -/
theorem material_comes_back_stored :
    (storedKey 0 (List.replicate 64 1)).material = .ok (List.replicate 64 1) ∧
      (storedKey 300 []).material = .error (.unsupportedVersion 7 300) ∧
      (storedKey 0 [1, 2, 3]).material = .error (.invalidLength 7 3) := by
  have back (version : UInt32) (bytes : Bytes) (fits : bytes.length < UInt64.size) :=
    material_comes_back.1 (storedKey version bytes) version bytes foreignFields fits
      isForeign_foreignFields rfl rfl
  exact ⟨(back 0 _ (by decide)).1 rfl rfl, (back 300 [] (by decide)).2.1 (by decide),
    (back 0 [1, 2, 3] (by decide)).2.2 rfl (by decide)⟩

end Keyset.Key

end LogProbe
