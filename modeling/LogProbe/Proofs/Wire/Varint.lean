/-
**Spellings of a number.** A number is spelled in groups of seven bits, lowest first, and may have
empty groups above its highest bit, as long as there are no more than ten groups. Whatever is read
as a number is one of its spellings, and the shortest of them is the one that is written.

* `Wire.IsVarint` — the spellings of a number of 64 bits.
* `Wire.readVarint?_eq_some_iff` — what is read as a number is a spelling of it, whatever comes
  after it.
* `Wire.isVarint_writeVarint` — a number that is written is spelled.
-/

import LogProbe.Wire.Varint

namespace LogProbe.Wire

/-- The groups of a number: every one but the last has its top bit set, and there are at most
`size + 1` of them, the last of which would hold one bit only. -/
inductive IsGroups : Nat → Nat → Bytes → Prop where
  | last {size : Nat} {byte : UInt8} (ends : byte < 128) (bit : size = 0 → byte < 2) :
      IsGroups size byte.toNat [byte]
  | more {size higher : Nat} {byte : UInt8} {bytes : Bytes} (continues : 128 ≤ byte)
      (above : IsGroups size higher bytes) :
      IsGroups (size + 1) (byte.toNat % 128 + 128 * higher) (byte :: bytes)

/-- The spellings of a number: up to ten groups, of which the tenth holds the last of 64 bits. -/
def IsVarint (value : Nat) (bytes : Bytes) : Prop := IsGroups 9 value bytes

theorem IsGroups.ne_nil {size value : Nat} {bytes : Bytes} (groups : IsGroups size value bytes) :
    bytes ≠ [] := by
  cases groups with
  | last => exact List.cons_ne_nil _ _
  | more => exact List.cons_ne_nil _ _

/-! ### Reading -/

theorem readGroups?_of_isGroups {size value : Nat} {bytes : Bytes}
    (groups : IsGroups size value bytes) (rest : Bytes) :
    readGroups? size (bytes ++ rest) = some (value, rest) := by
  induction groups with
  | @last size byte ends bit =>
    cases size with
    | zero => rw [List.singleton_append, readGroups?, if_pos (bit rfl)]
    | succ size => rw [List.singleton_append, readGroups?, if_pos ends]
  | more continues above ih =>
    rw [List.cons_append, readGroups?, if_neg (UInt8.not_lt.mpr continues), ih]
    rfl

theorem exists_groups_of_readGroups? {size value : Nat} {bytes rest : Bytes}
    (read : readGroups? size bytes = some (value, rest)) :
    ∃ groups, bytes = groups ++ rest ∧ IsGroups size value groups := by
  induction size generalizing bytes value with
  | zero =>
    match bytes with
    | [] => cases read
    | byte :: others =>
      rw [readGroups?] at read
      split at read
      · rename_i bit
        cases read
        exact ⟨[byte], rfl, .last (UInt8.lt_trans bit (by decide)) fun _ => bit⟩
      · cases read
  | succ size ih =>
    match bytes with
    | [] => cases read
    | byte :: others =>
      rw [readGroups?] at read
      split at read
      · rename_i ends
        cases read
        exact ⟨[byte], rfl, .last ends nofun⟩
      · rename_i continues
        obtain ⟨⟨higher, after⟩, above, read⟩ := Option.bind_eq_some_iff.mp read
        cases read
        obtain ⟨groups, rfl, spelled⟩ := ih above
        exact ⟨byte :: groups, rfl, .more (UInt8.not_lt.mp continues) spelled⟩

/-- **What is read as a number is a spelling of it**, whatever comes after it. -/
theorem readVarint?_eq_some_iff {bytes rest : Bytes} {value : Nat} :
    readVarint? bytes = some (value, rest) ↔
      ∃ groups, bytes = groups ++ rest ∧ IsVarint value groups := by
  constructor
  · exact exists_groups_of_readGroups?
  · rintro ⟨groups, rfl, spelled⟩
    exact readGroups?_of_isGroups spelled rest

theorem isVarint_of_readVarint? {value : Nat} {bytes : Bytes}
    (read : readVarint? bytes = some (value, [])) : IsVarint value bytes := by
  obtain ⟨groups, rfl, spelled⟩ := readVarint?_eq_some_iff.mp read
  rwa [List.append_nil]

theorem readVarint?_of_isVarint {value : Nat} {bytes : Bytes} (spelled : IsVarint value bytes)
    (rest : Bytes) : readVarint? (bytes ++ rest) = some (value, rest) :=
  readVarint?_eq_some_iff.mpr ⟨bytes, rfl, spelled⟩

/-! ### Writing -/

/-- One more than the greatest number in `size` groups of seven bits and one of a single bit. -/
def capacity : Nat → Nat
  | 0 => 2
  | size + 1 => 128 * capacity size

/-- A number below 128 is its own last group. -/
theorem isGroups_ofNat {size value : Nat} (seven : value < 128) (bit : size = 0 → value < 2) :
    IsGroups size value [UInt8.ofNat value] := by
  have number : (UInt8.ofNat value).toNat = value :=
    UInt8.toNat_ofNat_of_lt' (Nat.lt_trans seven (by decide))
  have group : IsGroups size (UInt8.ofNat value).toNat [UInt8.ofNat value] := by
    refine .last ?_ fun none => ?_
    · rw [UInt8.lt_iff_toNat_lt, number]
      exact seven
    · rw [UInt8.lt_iff_toNat_lt, number]
      exact bit none
  rwa [number] at group

theorem isGroups_writeGroups {size value : Nat} (fits : value < capacity size) :
    IsGroups size value (writeGroups size value) := by
  induction size generalizing value with
  | zero =>
    have bit : value < 2 := fits
    rw [writeGroups]
    exact isGroups_ofNat (Nat.lt_trans bit (by decide)) fun _ => bit
  | succ size ih =>
    rw [writeGroups]
    split
    · rename_i seven
      exact isGroups_ofNat seven nofun
    · have low := Nat.mod_lt value (show 0 < 128 by decide)
      have number : (UInt8.ofNat (value % 128 + 128)).toNat = value % 128 + 128 :=
        UInt8.toNat_ofNat_of_lt' (Nat.add_lt_add_right low 128)
      have continues : 128 ≤ UInt8.ofNat (value % 128 + 128) := by
        rw [UInt8.le_iff_toNat_le, number]
        exact Nat.le_add_left _ _
      have groups := IsGroups.more continues (ih (Nat.div_lt_of_lt_mul fits))
      rwa [number, Nat.add_mod_right, Nat.mod_mod, Nat.mod_add_div] at groups

/-- **A number that is written is spelled**, if it has 64 bits. -/
theorem isVarint_writeVarint {value : Nat} (fits : value < UInt64.size) :
    IsVarint value (writeVarint value) :=
  isGroups_writeGroups fits

end LogProbe.Wire
