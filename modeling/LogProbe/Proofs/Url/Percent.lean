/-
**Texts come back from percent encoding.** What is encoded with a set that holds `%` is decoded to
its bytes, since every `%` in it stands in front of the two digits of a byte.

* `Percent.decode_encodeByte` — one byte.
* `Percent.decode_encode` — a text.
* `Percent.textOf?_encode` — a text, and the text it is decoded to.
* `Percent.mem_encode`, `Percent.isEscaped_encode` — what an encoded text is made of: digits,
  characters outside the set, and `%` only in front of two digits.
-/

import LogProbe.Proofs.Text.Utf8
import LogProbe.Url.Percent

namespace LogProbe.Percent

/-- A digit is read as its value. -/
theorem digit?_digit {value : Nat} (small : value < 16) : digit? (digit value) = some value := by
  have all : ∀ value : Fin 16, digit? (digit value) = some value.val := by decide
  exact all ⟨value, small⟩

/-- An encoded byte is read as that byte. -/
theorem decode_encodeByte (byte : UInt8) (rest : List Char) :
    decode (encodeByte byte ++ rest) = byte :: decode rest := by
  have bound : byte.toNat < 256 := byte.toNat_lt
  have digits : 16 * (byte.toNat / 16) + byte.toNat % 16 = byte.toNat := by omega
  show decode ('%' :: digit (byte.toNat / 16) :: digit (byte.toNat % 16) :: rest) = _
  rw [decode, digit?_digit (by omega), digit?_digit (by omega)]
  simp only [digits, UInt8.ofNat_toNat]

theorem decode_encodeBytes (bytes : Bytes) (rest : List Char) :
    decode (bytes.flatMap encodeByte ++ rest) = bytes ++ decode rest := by
  induction bytes with
  | nil => rfl
  | cons byte bytes ih =>
    rw [List.flatMap_cons, List.append_assoc, decode_encodeByte, ih, List.cons_append]

/-- A character other than `%` stands for itself. -/
theorem decode_cons {c : Char} (plain : c ≠ '%') (rest : List Char) :
    decode (c :: rest) = String.utf8EncodeChar c ++ decode rest := by
  rw [decode.eq_def]
  split
  · rename_i heq
    exact absurd (List.cons.inj heq).1 plain
  · rename_i heq
    obtain ⟨rfl, rfl⟩ := List.cons.inj heq
    rfl
  · rename_i heq
    cases heq

/-- **A text comes back from percent encoding**, as its bytes. -/
theorem decode_encode {set : Set} (escapes : set '%' = true) (text : List Char) :
    decode (encode set text) = Utf8.encode text := by
  unfold encode Utf8.encode
  induction text with
  | nil => rfl
  | cons c rest ih =>
    rw [List.flatMap_cons, List.flatMap_cons, encodeChar]
    by_cases encoded : set c = true
    · rw [if_pos encoded, decode_encodeBytes, ih]
    · have plain : c ≠ '%' := by
        rintro rfl
        exact encoded escapes
      rw [if_neg encoded, List.singleton_append, decode_cons plain, ih]

/-- A text without `%` stands for itself. -/
theorem decode_of_not_mem {text : List Char} (plain : '%' ∉ text) :
    decode text = Utf8.encode text := by
  induction text with
  | nil => rfl
  | cons c rest ih =>
    obtain ⟨first, others⟩ := not_or.mp (mt List.mem_cons.mpr plain)
    rw [decode_cons (Ne.symm first), ih others]
    rfl

/-- The text that an encoded one is read as. -/
def textOf? (component : List Char) : Option String :=
  (Utf8.decode? (decode component)).map String.ofList

/-- An encoded text is read as that text. -/
theorem textOf?_encode {set : Set} (escapes : set '%' = true) (text : String) :
    textOf? (encode set text.toList) = some text := by
  unfold textOf?
  rw [decode_encode escapes, Utf8.decode?_encode, Option.map_some, String.ofList_toList]

/-! ### What encoded texts are made of -/

/-- A hexadecimal digit of either case. -/
def IsDigit (c : Char) : Prop := (digit? c).isSome = true

theorem isDigit_digit {value : Nat} (small : value < 16) : IsDigit (digit value) := by
  unfold IsDigit
  rw [digit?_digit small]
  rfl

/-- An encoded byte is `%` and two digits. -/
theorem exists_encodeByte_eq (byte : UInt8) :
    ∃ high low, encodeByte byte = ['%', high, low] ∧ IsDigit high ∧ IsDigit low := by
  have bound : byte.toNat < 256 := byte.toNat_lt
  exact ⟨_, _, rfl, isDigit_digit (by omega), isDigit_digit (by omega)⟩

/-- **The characters of an encoded text**: those of the text outside the set, `%` and digits. -/
theorem mem_encode {set : Set} {text : List Char} {c : Char} (member : c ∈ encode set text) :
    (set c = false ∧ c ∈ text) ∨ c = '%' ∨ IsDigit c := by
  obtain ⟨source, inside, member⟩ := List.mem_flatMap.mp member
  unfold encodeChar at member
  split at member
  · obtain ⟨byte, -, member⟩ := List.mem_flatMap.mp member
    obtain ⟨high, low, encoded, isHigh, isLow⟩ := exists_encodeByte_eq byte
    rw [encoded] at member
    rcases List.mem_cons.mp member with percent | member
    · exact .inr (.inl percent)
    rcases List.mem_cons.mp member with rfl | member
    · exact .inr (.inr isHigh)
    · cases List.mem_singleton.mp member
      exact .inr (.inr isLow)
  · rename_i plain
    cases List.mem_singleton.mp member
    exact .inl ⟨Bool.not_eq_true _ ▸ plain, inside⟩

/-- A character of the set that is neither `%` nor a digit does not stand in an encoded text. -/
theorem not_mem_encode {set : Set} {c : Char} (escaped : set c = true) (notPercent : c ≠ '%')
    (notDigit : digit? c = none) (text : List Char) : c ∉ encode set text := by
  intro member
  rcases mem_encode member with ⟨plain, -⟩ | percent | isDigit
  · rw [escaped] at plain
    cases plain
  · exact notPercent percent
  · rw [IsDigit, notDigit] at isDigit
    cases isDigit

theorem encodeChar_ne_nil (set : Set) (c : Char) : encodeChar set c ≠ [] := by
  unfold encodeChar
  split
  · intro nothing
    obtain ⟨byte, rest, bytes⟩ : ∃ byte rest, String.utf8EncodeChar c = byte :: rest :=
      List.exists_cons_of_ne_nil (List.ne_nil_of_length_pos (by simp [Char.utf8Size_pos]))
    have none := List.flatMap_eq_nil_iff.mp nothing byte (bytes ▸ List.mem_cons_self)
    cases none
  · exact List.cons_ne_nil _ _

theorem encode_ne_nil (set : Set) {text : List Char} (some : text ≠ []) : encode set text ≠ [] := by
  obtain ⟨c, rest, rfl⟩ := List.exists_cons_of_ne_nil some
  exact List.append_ne_nil_of_left_ne_nil (encodeChar_ne_nil set c) _

/-- What holds of the ASCII characters one by one holds of each. -/
theorem forall_ascii {P : Char → Prop} (each : ∀ code : Fin 128, P (Char.ofNat code)) {c : Char}
    (ascii : c.toNat < 128) : P c := by
  have same := each ⟨c.toNat, ascii⟩
  rwa [Char.ofNat_toNat] at same

/-- A character of ASCII that is neither a control nor the space. -/
def IsVisible (c : Char) : Prop := 0x20 < c.toNat ∧ c.toNat < 0x7F

instance : DecidablePred IsVisible := fun c =>
  inferInstanceAs (Decidable (0x20 < c.toNat ∧ c.toNat < 0x7F))

theorem toNat_lt_of_isDigit {c : Char} (isDigit : IsDigit c) : c.toNat < 128 := by
  unfold IsDigit digit? at isDigit
  split at isDigit
  · rename_i range
    have last : c.toNat ≤ '9'.toNat := range.2
    exact Nat.lt_of_le_of_lt last (by decide)
  split at isDigit
  · rename_i range
    have last : c.toNat ≤ 'f'.toNat := range.2
    exact Nat.lt_of_le_of_lt last (by decide)
  split at isDigit
  · rename_i range
    have last : c.toNat ≤ 'F'.toNat := range.2
    exact Nat.lt_of_le_of_lt last (by decide)
  · cases isDigit

/-- What holds of the digits among the ASCII characters holds of each digit. -/
theorem forall_isDigit {P : Char → Prop}
    (each : ∀ code : Fin 128, (digit? (Char.ofNat code)).isSome = true → P (Char.ofNat code))
    {c : Char} (isDigit : IsDigit c) : P c :=
  forall_ascii (P := fun c => (digit? c).isSome = true → P c) each (toNat_lt_of_isDigit isDigit)
    isDigit

/-- What holds of the characters outside the set of a part among the ASCII ones holds of each. -/
theorem forall_plain {set : Set} (part : set ∈ [userinfo, path, specialQuery, fragment])
    {P : Char → Prop}
    (each : ∀ code : Fin 128, set (Char.ofNat code) = false → P (Char.ofNat code)) {c : Char}
    (plain : set c = false) : P c := by
  have ascii : c.toNat < 128 := by
    refine Nat.lt_of_not_le fun high => ?_
    have control : controls c = true := by
      unfold controls
      rw [decide_eq_true (show 0x7F ≤ c.toNat by omega), Bool.or_true]
    have encoded : set c = true := by
      simp only [List.mem_cons, List.not_mem_nil, or_false] at part
      rcases part with rfl | rfl | rfl | rfl <;>
        simp [userinfo, path, specialQuery, query, fragment, control]
    rw [plain] at encoded
    cases encoded
  exact forall_ascii (P := fun c => set c = false → P c) each ascii plain

theorem isVisible_of_plain {set : Set} (part : set ∈ [userinfo, path, specialQuery, fragment])
    {c : Char} (plain : set c = false) : IsVisible c := by
  have each : ∀ code : Fin 128, set (Char.ofNat code) = false → IsVisible (Char.ofNat code) := by
    simp only [List.mem_cons, List.not_mem_nil, or_false] at part
    rcases part with rfl | rfl | rfl | rfl <;> decide
  exact forall_plain part each plain

/-- Nothing in a text is encoded with the set. -/
def IsClean (set : Set) (text : List Char) : Prop := ∀ c ∈ text, set c = false

theorem encode_of_isClean {set : Set} {text : List Char} (clean : IsClean set text) :
    encode set text = text := by
  induction text with
  | nil => rfl
  | cons c rest ih =>
    obtain ⟨first, others⟩ := List.forall_mem_cons.mp clean
    have inner : encode set rest = rest := ih others
    rw [encode, List.flatMap_cons, ← encode, inner, encodeChar, first]
    rfl

/-- The sets of the parts that are read leave encoded bytes as they are. -/
theorem isClean_encode {set : Set} (part : set ∈ [userinfo, path, specialQuery, fragment])
    (text : List Char) : IsClean set (encode set text) := by
  have escapes : set '%' = false ∧ ∀ code : Fin 128,
      (digit? (Char.ofNat code)).isSome = true → set (Char.ofNat code) = false := by
    simp only [List.mem_cons, List.not_mem_nil, or_false] at part
    rcases part with rfl | rfl | rfl | rfl <;> decide
  intro c member
  rcases mem_encode member with ⟨plain, -⟩ | rfl | isDigit
  · exact plain
  · exact escapes.1
  · exact forall_isDigit (P := fun c => set c = false) escapes.2 isDigit

/-- Every `%` of a text stands in front of two digits. -/
def IsEscaped (text : List Char) : Prop :=
  ∀ rest, '%' :: rest <:+ text →
    ∃ high low tail, rest = high :: low :: tail ∧ IsDigit high ∧ IsDigit low

/-- A character other than `%` leaves a text escaped. -/
theorem isEscaped_cons {c : Char} (plain : c ≠ '%') {text : List Char} (escaped : IsEscaped text) :
    IsEscaped (c :: text) := by
  intro rest suffix
  rcases List.suffix_cons_iff.mp suffix with whole | inside
  · exact absurd (List.cons.inj whole).1.symm plain
  · exact escaped rest inside

theorem isEscaped_encodeByte (byte : UInt8) {text : List Char} (escaped : IsEscaped text) :
    IsEscaped (encodeByte byte ++ text) := by
  obtain ⟨high, low, encoded, isHigh, isLow⟩ := exists_encodeByte_eq byte
  have plain {c : Char} (isDigit : IsDigit c) : c ≠ '%' := by
    rintro rfl
    cases isDigit
  rw [encoded]
  intro rest suffix
  rcases List.suffix_cons_iff.mp suffix with whole | inside
  · exact ⟨high, low, text, (List.cons.inj whole).2, isHigh, isLow⟩
  · exact isEscaped_cons (plain isHigh) (isEscaped_cons (plain isLow) escaped) rest inside

/-- **In an encoded text every `%` stands in front of two digits**, if the set holds `%`. -/
theorem isEscaped_encode {set : Set} (escapes : set '%' = true) (text : List Char) :
    IsEscaped (encode set text) := by
  unfold encode
  induction text with
  | nil =>
    intro rest suffix
    cases List.suffix_nil.mp suffix
  | cons c rest ih =>
    rw [List.flatMap_cons, encodeChar]
    by_cases encoded : set c = true
    · rw [if_pos encoded]
      induction String.utf8EncodeChar c with
      | nil => exact ih
      | cons byte bytes inner =>
        rw [List.flatMap_cons, List.append_assoc]
        exact isEscaped_encodeByte byte inner
    · have plain : c ≠ '%' := by
        rintro rfl
        exact encoded escapes
      rw [if_neg encoded, List.singleton_append]
      exact isEscaped_cons plain ih

end LogProbe.Percent
