/-
**Texts come back from JSON.** A string is read piece by piece up to its closing quote, and its
pieces mean the text that was written.

* `Json.readPieces?_escapedChar` — the pieces of one character, whatever follows.
* `Json.readPieces?_text` — the pieces of a text.
-/

import LogProbe.Json.Value
import LogProbe.Proofs.Text.Utf8

namespace LogProbe.Json

/-! ### Bytes that stand for themselves -/

/-- A byte that is neither a quote nor a backslash nor a control. -/
def IsPlainByte (byte : UInt8) : Prop := byte ≠ code '"' ∧ byte ≠ code '\\' ∧ ¬ byte < 0x20

theorem readPieces?_plain {bytes : Bytes} (plain : ∀ byte ∈ bytes, IsPlainByte byte)
    (rest : Bytes) :
    readPieces? (bytes ++ rest) =
      (readPieces? rest).map fun read => (bytes.map .byte ++ read.1, read.2) := by
  induction bytes with
  | nil => simp
  | cons byte bytes ih =>
    obtain ⟨noQuote, noBackslash, noControl⟩ := plain byte List.mem_cons_self
    rw [List.cons_append, readPieces?.eq_def]
    simp only [if_neg noQuote, if_neg noBackslash, if_neg noControl,
      ih fun other member => plain other (List.mem_cons_of_mem byte member)]
    cases readPieces? rest <;> rfl

theorem unescape?_bytes (bytes : Bytes) (pieces : List Piece) :
    unescape? (bytes.map .byte ++ pieces) = (unescape? pieces).map (bytes ++ ·) := by
  induction bytes with
  | nil => simp
  | cons byte bytes ih =>
    rw [List.map_cons, List.cons_append, unescape?, ih]
    cases unescape? pieces <;> rfl

theorem isPlainByte_ofNat {n : Nat} (small : n < 256) (noQuote : n ≠ 0x22) (noBackslash : n ≠ 0x5C)
    (noControl : ¬ n < 0x20) : IsPlainByte (UInt8.ofNat n) := by
  unfold IsPlainByte
  simp only [ne_eq, ← UInt8.toNat_inj, UInt8.lt_iff_toNat_lt, Utf8.toNat_ofNat_of_lt small]
  exact ⟨noQuote, noBackslash, noControl⟩

theorem isPlainByte_of_le {n : Nat} (high : 0x80 ≤ n) (small : n < 256) :
    IsPlainByte (UInt8.ofNat n) :=
  isPlainByte_ofNat small (by omega) (by omega) (by omega)

/-- The bytes of a character that is not escaped stand for themselves. -/
theorem isPlainByte_of_mem {c : Char} (noQuote : c ≠ '"') (noBackslash : c ≠ '\\')
    (noControl : ¬ c.toNat < 0x20) : ∀ byte ∈ String.utf8EncodeChar c, IsPlainByte byte := by
  have bound := Utf8.toNat_lt c
  by_cases one : c.toNat < 0x80
  · rw [Utf8.utf8EncodeChar_of_lt_80 one, List.forall_mem_singleton]
    exact isPlainByte_ofNat (by omega) (fun same => noQuote (Char.toNat_inj.mp same))
      (fun same => noBackslash (Char.toNat_inj.mp same)) noControl
  by_cases two : c.toNat < 0x800
  · rw [Utf8.utf8EncodeChar_of_lt_800 (by omega) two, List.forall_mem_cons,
      List.forall_mem_singleton]
    exact ⟨isPlainByte_of_le (by omega) (by omega), isPlainByte_of_le (by omega) (by omega)⟩
  by_cases three : c.toNat < 0x10000
  · rw [Utf8.utf8EncodeChar_of_lt_10000 (by omega) three, List.forall_mem_cons,
      List.forall_mem_cons, List.forall_mem_singleton]
    exact ⟨isPlainByte_of_le (by omega) (by omega), isPlainByte_of_le (by omega) (by omega),
      isPlainByte_of_le (by omega) (by omega)⟩
  · rw [Utf8.utf8EncodeChar_of_le (by omega), List.forall_mem_cons, List.forall_mem_cons,
      List.forall_mem_cons, List.forall_mem_singleton]
    exact ⟨isPlainByte_of_le (by omega) (by omega), isPlainByte_of_le (by omega) (by omega),
      isPlainByte_of_le (by omega) (by omega), isPlainByte_of_le (by omega) (by omega)⟩

/-! ### Escaped characters -/

/-- A letter behind a backslash. -/
theorem readPieces?_escape {mark value : UInt8} (known : escaped? mark = some value)
    (other : mark ≠ code 'u') (rest : Bytes) :
    readPieces? (code '\\' :: mark :: rest) =
      (readPieces? rest).map fun read => ([.byte value] ++ read.1, read.2) := by
  have notQuote : code '\\' ≠ code '"' := by decide
  rw [readPieces?.eq_def]
  simp only [if_neg notQuote, if_true, if_neg other, known]
  cases readPieces? rest <;> rfl

/-- Four hexadecimal digits behind a backslash and `u`. -/
theorem readPieces?_unit {a b c d : UInt8} {unit : Nat} (known : hexValue4? a b c d = some unit)
    (rest : Bytes) :
    readPieces? (code '\\' :: code 'u' :: a :: b :: c :: d :: rest) =
      (readPieces? rest).map fun read => ([.unit unit] ++ read.1, read.2) := by
  have notQuote : code '\\' ≠ code '"' := by decide
  rw [readPieces?.eq_def]
  simp only [if_neg notQuote, if_true, known]
  cases readPieces? rest <;> rfl

/-- A character below U+0020 as its number, with its two hexadecimal digits. -/
theorem hexValue4?_control {n : Nat} (small : n < 0x20) :
    hexValue4? (code '0') (code '0') (code (Nat.digitChar (n / 16)))
        (code (Nat.digitChar (n % 16))) = some n ∧
      String.utf8EncodeChar (Nat.digitChar (n / 16)) = [code (Nat.digitChar (n / 16))] ∧
      String.utf8EncodeChar (Nat.digitChar (n % 16)) = [code (Nat.digitChar (n % 16))] := by
  have all : ∀ n : Fin 32, hexValue4? (code '0') (code '0') (code (Nat.digitChar (n.val / 16)))
        (code (Nat.digitChar (n.val % 16))) = some n.val ∧
      String.utf8EncodeChar (Nat.digitChar (n.val / 16)) = [code (Nat.digitChar (n.val / 16))] ∧
      String.utf8EncodeChar (Nat.digitChar (n.val % 16)) =
        [code (Nat.digitChar (n.val % 16))] := by decide
  exact all ⟨n, small⟩

/-- **What is read of one character** are pieces that mean its bytes. -/
theorem readPieces?_escapedChar (c : Char) :
    ∃ own : List Piece,
      (∀ rest, readPieces? (Utf8.encode (escapedChar c) ++ rest) =
        (readPieces? rest).map fun read => (own ++ read.1, read.2)) ∧
      ∀ pieces, unescape? (own ++ pieces) =
        (unescape? pieces).map (String.utf8EncodeChar c ++ ·) := by
  unfold escapedChar
  split
  · exact ⟨[.byte 0x22], readPieces?_escape rfl (by decide), unescape?_bytes [0x22]⟩
  · exact ⟨[.byte 0x5C], readPieces?_escape rfl (by decide), unescape?_bytes [0x5C]⟩
  · exact ⟨[.byte 0x08], readPieces?_escape rfl (by decide), unescape?_bytes [0x08]⟩
  · exact ⟨[.byte 0x0C], readPieces?_escape rfl (by decide), unescape?_bytes [0x0C]⟩
  · exact ⟨[.byte 0x0A], readPieces?_escape rfl (by decide), unescape?_bytes [0x0A]⟩
  · exact ⟨[.byte 0x0D], readPieces?_escape rfl (by decide), unescape?_bytes [0x0D]⟩
  · exact ⟨[.byte 0x09], readPieces?_escape rfl (by decide), unescape?_bytes [0x09]⟩
  · rename_i noQuote noBackslash _ _ _ _ _
    split
    · rename_i control
      obtain ⟨unit, high, low⟩ := hexValue4?_control control
      refine ⟨[.unit c.toNat], fun rest => ?_, fun pieces => ?_⟩
      · have bytes : Utf8.encode ['\\', 'u', '0', '0', Nat.digitChar (c.toNat / 16),
            Nat.digitChar (c.toNat % 16)] = [code '\\', code 'u', code '0', code '0',
              code (Nat.digitChar (c.toNat / 16)), code (Nat.digitChar (c.toNat % 16))] := by
          simp only [Utf8.encode, List.flatMap_cons, List.flatMap_nil, high, low]
          rfl
        rw [bytes]
        exact readPieces?_unit unit rest
      · rw [List.singleton_append, unescape?.eq_def]
        simp only [show ¬ (0xDC00 ≤ c.toNat ∧ c.toNat ≤ 0xDFFF) by omega,
          show ¬ (0xD800 ≤ c.toNat ∧ c.toNat ≤ 0xDBFF) by omega, if_false, Char.ofNat_toNat]
        cases unescape? pieces <;> rfl
    · rename_i noControl
      refine ⟨(String.utf8EncodeChar c).map .byte, fun rest => ?_, unescape?_bytes _⟩
      have bytes : Utf8.encode [c] = String.utf8EncodeChar c := List.append_nil _
      rw [bytes]
      exact readPieces?_plain (isPlainByte_of_mem noQuote noBackslash noControl) rest

/-! ### Texts -/

/-- The pieces of a text, up to its closing quote. -/
theorem readPieces?_text (text : List Char) (rest : Bytes) :
    ∃ pieces, readPieces? (Utf8.encode (text.flatMap escapedChar) ++ code '"' :: rest) =
        some (pieces, rest) ∧
      unescape? pieces = some (Utf8.encode text) := by
  induction text with
  | nil =>
    refine ⟨[], ?_, rfl⟩
    show readPieces? (code '"' :: rest) = _
    rw [readPieces?.eq_def]
    simp only [if_true]
  | cons c text ih =>
    obtain ⟨pieces, read, meant⟩ := ih
    obtain ⟨own, readChar, meantChar⟩ := readPieces?_escapedChar c
    have bytes : Utf8.encode ((c :: text).flatMap escapedChar) =
        Utf8.encode (escapedChar c) ++ Utf8.encode (text.flatMap escapedChar) := by
      unfold Utf8.encode
      rw [List.flatMap_cons, List.flatMap_append]
    refine ⟨own ++ pieces, ?_, ?_⟩
    · rw [bytes, List.append_assoc, readChar, read]
      rfl
    · rw [meantChar, meant]
      rfl

end LogProbe.Json
