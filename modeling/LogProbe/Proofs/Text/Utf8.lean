/-
**Texts come back from UTF-8.** The bytes of a character are read as that character, whatever
follows them.

* `Utf8.scan_utf8EncodeChar` — one character.
* `Utf8.decode?_encode` — a text.
* `Utf8.encode_injective` — two texts do not have the same bytes.
-/

import LogProbe.Text.Utf8

namespace LogProbe.Utf8

/-! ### Classes of bytes, by their numbers -/

theorem toNat_ofNat_of_lt {n : Nat} (small : n < 256) : (UInt8.ofNat n).toNat = n :=
  UInt8.toNat_ofNat_of_lt' small

theorem width_ofNat {n : Nat} (small : n < 256) :
    width (UInt8.ofNat n) =
      if n < 0x80 then 1 else if n < 0xC2 then 0 else if n < 0xE0 then 2
        else if n < 0xF0 then 3 else if n < 0xF5 then 4 else 0 := by
  simp only [width, UInt8.lt_iff_toNat_lt, toNat_ofNat_of_lt small]
  rfl

theorem isContinuation_ofNat {n : Nat} (small : n < 256) :
    isContinuation (UInt8.ofNat n) = (decide (0x80 ≤ n) && decide (n ≤ 0xBF)) := by
  simp only [isContinuation, UInt8.le_iff_toNat_le, toNat_ofNat_of_lt small]
  rfl

/-- The lowest six bits of a number, in a continuation. -/
theorem isContinuation_low (n : Nat) : isContinuation (UInt8.ofNat (0x80 + n % 64)) = true := by
  rw [isContinuation_ofNat (by omega)]
  simp only [Bool.and_eq_true, decide_eq_true_eq]
  omega

theorem mayFollow_ofNat {m n : Nat} (lead : m < 256) (small : n < 256) :
    mayFollow (UInt8.ofNat m) (UInt8.ofNat n) =
      if m = 0xE0 then decide (0xA0 ≤ n) && decide (n ≤ 0xBF)
      else if m = 0xED then decide (0x80 ≤ n) && decide (n ≤ 0x9F)
      else if m = 0xF0 then decide (0x90 ≤ n) && decide (n ≤ 0xBF)
      else if m = 0xF4 then decide (0x80 ≤ n) && decide (n ≤ 0x8F)
      else decide (0x80 ≤ n) && decide (n ≤ 0xBF) := by
  simp only [mayFollow, isContinuation, UInt8.le_iff_toNat_le, ← UInt8.toNat_inj,
    toNat_ofNat_of_lt lead, toNat_ofNat_of_lt small]
  rfl

/-! ### The bytes of a character -/

variable {c : Char}

/-- The numbers of characters leave out the surrogates. -/
theorem toNat_lt (c : Char) : c.toNat < 0xD800 ∨ 0xDFFF < c.toNat ∧ c.toNat < 0x110000 := c.valid

theorem utf8EncodeChar_of_lt_80 (one : c.toNat < 0x80) :
    String.utf8EncodeChar c = [UInt8.ofNat c.toNat] := by
  unfold String.utf8EncodeChar
  exact if_pos (Nat.le_of_lt_succ one)

theorem utf8EncodeChar_of_lt_800 (many : 0x80 ≤ c.toNat) (two : c.toNat < 0x800) :
    String.utf8EncodeChar c =
      [UInt8.ofNat (0xC0 + c.toNat / 64), UInt8.ofNat (0x80 + c.toNat % 64)] := by
  have whole : c.toNat / 64 % 32 = c.toNat / 64 := by omega
  unfold String.utf8EncodeChar
  show (if c.toNat ≤ 0x7F then _ else if c.toNat ≤ 0x7FF then
    [UInt8.ofNat (c.toNat / 64 % 32 + 0xC0), UInt8.ofNat (c.toNat % 64 + 0x80)] else _) = _
  rw [if_neg (by omega), if_pos (by omega), whole, Nat.add_comm 0xC0, Nat.add_comm 0x80]

theorem utf8EncodeChar_of_lt_10000 (many : 0x800 ≤ c.toNat) (three : c.toNat < 0x10000) :
    String.utf8EncodeChar c =
      [UInt8.ofNat (0xE0 + c.toNat / 4096), UInt8.ofNat (0x80 + c.toNat / 64 % 64),
        UInt8.ofNat (0x80 + c.toNat % 64)] := by
  have whole : c.toNat / 4096 % 16 = c.toNat / 4096 := by omega
  unfold String.utf8EncodeChar
  show (if c.toNat ≤ 0x7F then _ else if c.toNat ≤ 0x7FF then _ else if c.toNat ≤ 0xFFFF then
    [UInt8.ofNat (c.toNat / 4096 % 16 + 0xE0), UInt8.ofNat (c.toNat / 64 % 64 + 0x80),
      UInt8.ofNat (c.toNat % 64 + 0x80)] else _) = _
  rw [if_neg (by omega), if_neg (by omega), if_pos (by omega), whole, Nat.add_comm 0xE0,
    Nat.add_comm 0x80, Nat.add_comm 0x80]

theorem utf8EncodeChar_of_le (many : 0x10000 ≤ c.toNat) :
    String.utf8EncodeChar c =
      [UInt8.ofNat (0xF0 + c.toNat / 262144), UInt8.ofNat (0x80 + c.toNat / 4096 % 64),
        UInt8.ofNat (0x80 + c.toNat / 64 % 64), UInt8.ofNat (0x80 + c.toNat % 64)] := by
  have bound := toNat_lt c
  have whole : c.toNat / 262144 % 8 = c.toNat / 262144 := by omega
  unfold String.utf8EncodeChar
  show (if c.toNat ≤ 0x7F then _ else if c.toNat ≤ 0x7FF then _ else if c.toNat ≤ 0xFFFF then _ else
    [UInt8.ofNat (c.toNat / 262144 % 8 + 0xF0), UInt8.ofNat (c.toNat / 4096 % 64 + 0x80),
      UInt8.ofNat (c.toNat / 64 % 64 + 0x80), UInt8.ofNat (c.toNat % 64 + 0x80)]) = _
  rw [if_neg (by omega), if_neg (by omega), if_neg (by omega), whole, Nat.add_comm 0xF0,
    Nat.add_comm 0x80, Nat.add_comm 0x80, Nat.add_comm 0x80]

/-- A character is found again by its number. -/
theorem scalar_eq (bits : Nat) (continuation : Bytes)
    (number : continuation.foldl (fun value byte => 64 * value + byte.toNat % 64) bits = c.toNat) :
    scalar bits continuation = c := by
  unfold scalar
  rw [number, Char.ofNat_toNat]

/-! ### Steps of the reading -/

section Steps

variable {lead second third fourth : UInt8} {rest : Bytes}

theorem scan_one (one : width lead = 1) :
    scan (lead :: rest) = some (scalar lead.toNat []) :: scan rest := by
  rw [scan.eq_def]
  simp only [one, if_true]

theorem scan_two (two : width lead = 2) (follows : mayFollow lead second = true) :
    scan (lead :: second :: rest) = some (scalar (lead.toNat % 32) [second]) :: scan rest := by
  rw [scan.eq_def]
  simp [two, follows]

theorem scan_three (three : width lead = 3) (follows : mayFollow lead second = true)
    (continues : isContinuation third = true) :
    scan (lead :: second :: third :: rest) =
      some (scalar (lead.toNat % 16) [second, third]) :: scan rest := by
  rw [scan.eq_def]
  simp [three, follows, continues]

theorem scan_four (four : width lead = 4) (follows : mayFollow lead second = true)
    (continues : isContinuation third = true) (ends : isContinuation fourth = true) :
    scan (lead :: second :: third :: fourth :: rest) =
      some (scalar (lead.toNat % 8) [second, third, fourth]) :: scan rest := by
  rw [scan.eq_def]
  simp [four, follows, continues, ends]

end Steps

/-! ### Characters, by how many bytes they have -/

variable (rest : Bytes)

theorem scan_of_lt_80 (one : c.toNat < 0x80) :
    scan (String.utf8EncodeChar c ++ rest) = some c :: scan rest := by
  have lead : width (UInt8.ofNat c.toNat) = 1 := by
    rw [width_ofNat (by omega), if_pos one]
  have spelled : scalar (UInt8.ofNat c.toNat).toNat [] = c := by
    apply scalar_eq
    simp (disch := omega) only [List.foldl_nil, toNat_ofNat_of_lt]
  rw [utf8EncodeChar_of_lt_80 one, List.singleton_append, scan_one lead, spelled]

theorem scan_of_lt_800 (many : 0x80 ≤ c.toNat) (two : c.toNat < 0x800) :
    scan (String.utf8EncodeChar c ++ rest) = some c :: scan rest := by
  have lead : width (UInt8.ofNat (0xC0 + c.toNat / 64)) = 2 := by
    rw [width_ofNat (by omega), if_neg (by omega), if_neg (by omega), if_pos (by omega)]
  have follows : mayFollow (UInt8.ofNat (0xC0 + c.toNat / 64))
      (UInt8.ofNat (0x80 + c.toNat % 64)) = true := by
    rw [mayFollow_ofNat (by omega) (by omega), if_neg (by omega), if_neg (by omega),
      if_neg (by omega), if_neg (by omega), ← isContinuation_ofNat (by omega)]
    exact isContinuation_low _
  have spelled : scalar ((UInt8.ofNat (0xC0 + c.toNat / 64)).toNat % 32)
      [UInt8.ofNat (0x80 + c.toNat % 64)] = c := by
    apply scalar_eq
    simp (disch := omega) only [List.foldl_cons, List.foldl_nil, toNat_ofNat_of_lt]
    omega
  rw [utf8EncodeChar_of_lt_800 many two, List.cons_append, List.cons_append, List.nil_append,
    scan_two lead follows, spelled]

theorem scan_of_lt_10000 (many : 0x800 ≤ c.toNat) (three : c.toNat < 0x10000) :
    scan (String.utf8EncodeChar c ++ rest) = some c :: scan rest := by
  have bound := toNat_lt c
  have lead : width (UInt8.ofNat (0xE0 + c.toNat / 4096)) = 3 := by
    rw [width_ofNat (by omega), if_neg (by omega), if_neg (by omega), if_neg (by omega),
      if_pos (by omega)]
  -- Overlong forms and surrogates are cut off here, and `c` is neither.
  have follows : mayFollow (UInt8.ofNat (0xE0 + c.toNat / 4096))
      (UInt8.ofNat (0x80 + c.toNat / 64 % 64)) = true := by
    rw [mayFollow_ofNat (by omega) (by omega)]
    split
    · simp only [Bool.and_eq_true, decide_eq_true_eq]
      omega
    · split
      · simp only [Bool.and_eq_true, decide_eq_true_eq]
        omega
      · rw [if_neg (by omega), if_neg (by omega), ← isContinuation_ofNat (by omega)]
        exact isContinuation_low _
  have spelled : scalar ((UInt8.ofNat (0xE0 + c.toNat / 4096)).toNat % 16)
      [UInt8.ofNat (0x80 + c.toNat / 64 % 64), UInt8.ofNat (0x80 + c.toNat % 64)] = c := by
    apply scalar_eq
    simp (disch := omega) only [List.foldl_cons, List.foldl_nil, toNat_ofNat_of_lt]
    omega
  rw [utf8EncodeChar_of_lt_10000 many three]
  simp only [List.cons_append, List.nil_append]
  rw [scan_three lead follows (isContinuation_low _), spelled]

theorem scan_of_le (many : 0x10000 ≤ c.toNat) :
    scan (String.utf8EncodeChar c ++ rest) = some c :: scan rest := by
  have bound := toNat_lt c
  have lead : width (UInt8.ofNat (0xF0 + c.toNat / 262144)) = 4 := by
    rw [width_ofNat (by omega), if_neg (by omega), if_neg (by omega), if_neg (by omega),
      if_neg (by omega), if_pos (by omega)]
  have follows : mayFollow (UInt8.ofNat (0xF0 + c.toNat / 262144))
      (UInt8.ofNat (0x80 + c.toNat / 4096 % 64)) = true := by
    rw [mayFollow_ofNat (by omega) (by omega), if_neg (by omega), if_neg (by omega)]
    split
    · simp only [Bool.and_eq_true, decide_eq_true_eq]
      omega
    · split
      · simp only [Bool.and_eq_true, decide_eq_true_eq]
        omega
      · rw [← isContinuation_ofNat (by omega)]
        exact isContinuation_low _
  have spelled : scalar ((UInt8.ofNat (0xF0 + c.toNat / 262144)).toNat % 8)
      [UInt8.ofNat (0x80 + c.toNat / 4096 % 64), UInt8.ofNat (0x80 + c.toNat / 64 % 64),
        UInt8.ofNat (0x80 + c.toNat % 64)] = c := by
    apply scalar_eq
    simp (disch := omega) only [List.foldl_cons, List.foldl_nil, toNat_ofNat_of_lt]
    omega
  rw [utf8EncodeChar_of_le many]
  simp only [List.cons_append, List.nil_append]
  rw [scan_four lead follows (isContinuation_low _) (isContinuation_low _), spelled]

/-- **The bytes of a character are read as that character.** -/
theorem scan_utf8EncodeChar (c : Char) (rest : Bytes) :
    scan (String.utf8EncodeChar c ++ rest) = some c :: scan rest := by
  by_cases one : c.toNat < 0x80
  · exact scan_of_lt_80 rest one
  by_cases two : c.toNat < 0x800
  · exact scan_of_lt_800 rest (by omega) two
  by_cases three : c.toNat < 0x10000
  · exact scan_of_lt_10000 rest (by omega) three
  · exact scan_of_le rest (by omega)

/-! ### Texts -/

theorem encode_append (first second : List Char) :
    encode (first ++ second) = encode first ++ encode second := List.flatMap_append

/-- A text has a byte for each of its characters at least. -/
theorem length_le_length_encode (text : List Char) : text.length ≤ (encode text).length := by
  induction text with
  | nil => exact Nat.le_refl _
  | cons c rest ih =>
    have positive : 0 < (String.utf8EncodeChar c).length := by
      rw [String.length_utf8EncodeChar]
      exact c.utf8Size_pos
    unfold encode at ih ⊢
    rw [List.flatMap_cons, List.length_append, List.length_cons]
    omega

theorem scan_encode (text : List Char) : scan (encode text) = text.map some := by
  unfold encode
  induction text with
  | nil => rw [List.flatMap_nil, scan, List.map_nil]
  | cons c rest ih => rw [List.flatMap_cons, scan_utf8EncodeChar, ih, List.map_cons]

/-- **A text comes back from its bytes.** -/
theorem decode?_encode (text : List Char) : decode? (encode text) = some text := by
  unfold decode?
  rw [scan_encode]
  induction text with
  | nil => rfl
  | cons c rest ih =>
    rw [List.map_cons, List.mapM_cons, ih]
    rfl

/-- Two texts do not have the same bytes. -/
theorem encode_injective {first second : List Char} (same : encode first = encode second) :
    first = second := by
  have read := decode?_encode first
  rw [same, decode?_encode] at read
  exact (Option.some.inj read).symm

theorem bytesOf_injective {first second : String} (same : bytesOf first = bytesOf second) :
    first = second :=
  String.toList_injective (encode_injective same)

end LogProbe.Utf8
