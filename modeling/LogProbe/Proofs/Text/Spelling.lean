/-
**A text has one spelling in UTF-8.** Overlong forms, surrogates and numbers that are too large are
no scalars, so that the bytes read as a character are the bytes of that character.

* `Utf8.utf8EncodeChar_scalar_two` and its like for one, three and four bytes — one character.
* `Utf8.encode_of_scan` — the scalars of a byte string with nothing in between.
* `Utf8.decode?_eq_some_iff` — a text is read from its bytes and from no others.
-/

import LogProbe.Proofs.Text.Utf8

namespace LogProbe.Utf8

/-! ### Numbers of bytes and characters -/

theorem exists_eq_ofNat (byte : UInt8) : ∃ n < 256, byte = UInt8.ofNat n :=
  ⟨byte.toNat, byte.toNat_lt, UInt8.ofNat_toNat.symm⟩

/-- The classes of lead bytes, by how many bytes they announce. -/
theorem bounds_of_width {n : Nat} (small : n < 256) :
    (width (UInt8.ofNat n) = 1 → n < 0x80) ∧
      (width (UInt8.ofNat n) = 2 → 0xC2 ≤ n ∧ n < 0xE0) ∧
      (width (UInt8.ofNat n) = 3 → 0xE0 ≤ n ∧ n < 0xF0) ∧
      (width (UInt8.ofNat n) = 4 → 0xF0 ≤ n ∧ n < 0xF5) := by
  rw [width_ofNat small]
  grind

theorem bounds_of_isContinuation {n : Nat} (small : n < 256)
    (continues : isContinuation (UInt8.ofNat n) = true) : 0x80 ≤ n ∧ n ≤ 0xBF := by
  simpa [isContinuation_ofNat small] using continues

/-- The second byte continues, and cuts off overlong forms, surrogates and numbers past the last. -/
theorem bounds_of_mayFollow {m n : Nat} (lead : m < 256) (small : n < 256)
    (follows : mayFollow (UInt8.ofNat m) (UInt8.ofNat n) = true) :
    0x80 ≤ n ∧ n ≤ 0xBF ∧ (m = 0xE0 → 0xA0 ≤ n) ∧ (m = 0xED → n ≤ 0x9F) ∧ (m = 0xF0 → 0x90 ≤ n) ∧
      (m = 0xF4 → n ≤ 0x8F) := by
  rw [mayFollow_ofNat lead small] at follows
  repeat' split at follows
  all_goals
    simp only [Bool.and_eq_true, decide_eq_true_eq] at follows
    omega

/-- The number of a scalar is the one that its bytes spell, if that belongs to a character. -/
theorem toNat_scalar {bits n : Nat} {continuation : Bytes}
    (number : continuation.foldl (fun value byte => 64 * value + byte.toNat % 64) bits = n)
    (valid : n < 0xD800 ∨ 0xDFFF < n ∧ n < 0x110000) : (scalar bits continuation).toNat = n := by
  unfold scalar
  rw [number, Char.ofNat, dif_pos valid]
  rfl

/-! ### One character -/

section Characters

variable {lead second third fourth : UInt8}

theorem utf8EncodeChar_scalar_one (one : width lead = 1) :
    String.utf8EncodeChar (scalar lead.toNat []) = [lead] := by
  obtain ⟨m, small, rfl⟩ := exists_eq_ofNat lead
  have low := (bounds_of_width small).1 one
  have number : (scalar (UInt8.ofNat m).toNat []).toNat = m :=
    toNat_scalar (toNat_ofNat_of_lt small) (by omega)
  rw [utf8EncodeChar_of_lt_80 (by omega), number]

theorem utf8EncodeChar_scalar_two (two : width lead = 2) (follows : mayFollow lead second = true) :
    String.utf8EncodeChar (scalar (lead.toNat % 32) [second]) = [lead, second] := by
  obtain ⟨m, leadSmall, rfl⟩ := exists_eq_ofNat lead
  obtain ⟨n, secondSmall, rfl⟩ := exists_eq_ofNat second
  obtain ⟨low, high⟩ := (bounds_of_width leadSmall).2.1 two
  have bounds := bounds_of_mayFollow leadSmall secondSmall follows
  have number : (scalar ((UInt8.ofNat m).toNat % 32) [UInt8.ofNat n]).toNat =
      64 * (m % 32) + n % 64 := by
    refine toNat_scalar ?_ (by omega)
    simp only [List.foldl_cons, List.foldl_nil, toNat_ofNat_of_lt leadSmall,
      toNat_ofNat_of_lt secondSmall]
  rw [utf8EncodeChar_of_lt_800 (by omega) (by omega), number]
  congr 3 <;> omega

theorem utf8EncodeChar_scalar_three (three : width lead = 3)
    (follows : mayFollow lead second = true)
    (continues : isContinuation third = true) :
    String.utf8EncodeChar (scalar (lead.toNat % 16) [second, third]) = [lead, second, third] := by
  obtain ⟨m, leadSmall, rfl⟩ := exists_eq_ofNat lead
  obtain ⟨n, secondSmall, rfl⟩ := exists_eq_ofNat second
  obtain ⟨k, thirdSmall, rfl⟩ := exists_eq_ofNat third
  have widths := (bounds_of_width leadSmall).2.2.1 three
  have bounds := bounds_of_mayFollow leadSmall secondSmall follows
  have last := bounds_of_isContinuation thirdSmall continues
  have number : (scalar ((UInt8.ofNat m).toNat % 16) [UInt8.ofNat n, UInt8.ofNat k]).toNat =
      64 * (64 * (m % 16) + n % 64) + k % 64 := by
    refine toNat_scalar ?_ (by omega)
    simp only [List.foldl_cons, List.foldl_nil, toNat_ofNat_of_lt leadSmall,
      toNat_ofNat_of_lt secondSmall, toNat_ofNat_of_lt thirdSmall]
  rw [utf8EncodeChar_of_lt_10000 (by omega) (by omega), number]
  congr 4 <;> omega

theorem utf8EncodeChar_scalar_four (four : width lead = 4) (follows : mayFollow lead second = true)
    (continues : isContinuation third = true) (ends : isContinuation fourth = true) :
    String.utf8EncodeChar (scalar (lead.toNat % 8) [second, third, fourth]) =
      [lead, second, third, fourth] := by
  obtain ⟨m, leadSmall, rfl⟩ := exists_eq_ofNat lead
  obtain ⟨n, secondSmall, rfl⟩ := exists_eq_ofNat second
  obtain ⟨k, thirdSmall, rfl⟩ := exists_eq_ofNat third
  obtain ⟨l, fourthSmall, rfl⟩ := exists_eq_ofNat fourth
  have widths := (bounds_of_width leadSmall).2.2.2 four
  have bounds := bounds_of_mayFollow leadSmall secondSmall follows
  have middle := bounds_of_isContinuation thirdSmall continues
  have last := bounds_of_isContinuation fourthSmall ends
  have number : (scalar ((UInt8.ofNat m).toNat % 8)
      [UInt8.ofNat n, UInt8.ofNat k, UInt8.ofNat l]).toNat =
      64 * (64 * (64 * (m % 8) + n % 64) + k % 64) + l % 64 := by
    refine toNat_scalar ?_ (by omega)
    simp only [List.foldl_cons, List.foldl_nil, toNat_ofNat_of_lt leadSmall,
      toNat_ofNat_of_lt secondSmall, toNat_ofNat_of_lt thirdSmall, toNat_ofNat_of_lt fourthSmall]
  rw [utf8EncodeChar_of_le (by omega), number]
  congr 5 <;> omega

end Characters

/-! ### Texts -/

/-- **A character that is read stands there in its own bytes**, and the reading goes on behind
them. -/
theorem exists_of_scan_eq_cons {bytes : Bytes} {c : Char} {read : List (Option Char)}
    (found : scan bytes = some c :: read) :
    ∃ rest, bytes = String.utf8EncodeChar c ++ rest ∧ scan rest = read := by
  cases bytes with
  | nil =>
    rw [scan] at found
    cases found
  | cons lead rest =>
    have four : width lead ≠ 1 → width lead ≠ 0 → width lead ≠ 2 → width lead ≠ 3 →
        width lead = 4 := by
      unfold width
      grind
    rw [scan.eq_def] at found
    simp only at found
    split at found
    · rename_i one
      cases found
      exact ⟨rest, by rw [utf8EncodeChar_scalar_one one, List.singleton_append], rfl⟩
    split at found
    · cases found
    split at found
    · cases found
    rename_i second rest
    split at found
    · cases found
    rename_i follows
    rw [Bool.not_eq_false] at follows
    split at found
    · rename_i two
      cases found
      exact ⟨rest, by rw [utf8EncodeChar_scalar_two two follows]; rfl, rfl⟩
    split at found
    · cases found
    rename_i third rest
    split at found
    · cases found
    rename_i continues
    rw [Bool.not_eq_false] at continues
    split at found
    · rename_i three
      cases found
      exact ⟨rest, by rw [utf8EncodeChar_scalar_three three follows continues]; rfl, rfl⟩
    split at found
    · cases found
    rename_i fourth rest
    split at found
    · cases found
    rename_i ends
    rw [Bool.not_eq_false] at ends
    cases found
    refine ⟨rest, ?_, rfl⟩
    rw [utf8EncodeChar_scalar_four (four ‹_› ‹_› ‹_› ‹_›) follows continues ends]
    rfl

theorem eq_nil_of_scan {bytes : Bytes} (nothing : scan bytes = []) : bytes = [] := by
  cases bytes with
  | nil => rfl
  | cons lead rest =>
    rw [scan.eq_def] at nothing
    simp only at nothing
    repeat' split at nothing
    all_goals cases nothing

/-- The scalars of a byte string spell it again, if nothing else stands between them. -/
theorem encode_of_scan {bytes : Bytes} {text : List Char} (read : scan bytes = text.map some) :
    encode text = bytes := by
  induction text generalizing bytes with
  | nil => exact (eq_nil_of_scan read).symm
  | cons c text ih =>
    obtain ⟨rest, rfl, later⟩ := exists_of_scan_eq_cons read
    rw [← ih later]
    rfl

theorem eq_map_of_mapM {entries : List (Option Char)} {text : List Char}
    (read : entries.mapM id = some text) : entries = text.map some := by
  induction entries generalizing text with
  | nil =>
    cases read
    rfl
  | cons entry rest ih =>
    rw [List.mapM_cons] at read
    obtain ⟨c, same, read⟩ := Option.bind_eq_some_iff.mp read
    obtain ⟨others, later, made⟩ := Option.bind_eq_some_iff.mp read
    cases made
    rw [ih later, List.map_cons]
    exact congrArg (· :: _) same

/-- **A text is read from its bytes and from no others.** -/
theorem decode?_eq_some_iff {bytes : Bytes} {text : List Char} :
    decode? bytes = some text ↔ bytes = encode text := by
  constructor
  · intro read
    exact (encode_of_scan (eq_map_of_mapM read)).symm
  · rintro rfl
    exact decode?_encode text

end LogProbe.Utf8
