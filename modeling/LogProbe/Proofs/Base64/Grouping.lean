/-
**Base64 in several pieces.** The texts of several byte strings can stand one behind the other, each
of them padded for itself, and such a row of texts is read as the bytes of all of them. Nothing else
is read: blocks have four symbols, the symbols are those of the alphabet, padding is complete, and
unneeded bits are zero.

* `Base64.IsRowOf` — the row of texts that a byte string makes when it is cut into pieces.
* `Base64.decode?_eq_some_iff` — what is read as a byte string are its rows.
* `Base64.PadsLast` — padding is at the end only.
* `Base64.encode_eq_iff_padsLast` — of all texts that are read as a byte string, the one in which
  padding is at the end only is the text of the byte string.
-/

import LogProbe.Proofs.Base64.Canonical

namespace LogProbe.Base64

/-! ### Blocks -/

/-- A symbol is the one at the place of its bits, and padding is no symbol. -/
theorem symbol_of_bits? {c : Char} {bits : Nat} (read : bits? c = some bits) :
    bits < 64 ∧ symbol bits = c ∧ c ≠ '=' := by
  have range : bits < 64 ∧ symbol bits = c := by
    unfold bits? at read
    split at read
    · rename_i upper
      have first : 65 ≤ c.toNat := upper.1
      have last : c.toNat ≤ 90 := upper.2
      cases read
      refine ⟨by omega, ?_⟩
      rw [symbol, if_pos (by omega), Nat.add_sub_cancel' first, Char.ofNat_toNat]
    · split at read
      · rename_i lower
        have first : 97 ≤ c.toNat := lower.1
        have last : c.toNat ≤ 122 := lower.2
        cases read
        refine ⟨by omega, ?_⟩
        rw [symbol, if_neg (by omega), if_pos (by omega), Nat.add_sub_cancel' (by omega),
          Char.ofNat_toNat]
      · split at read
        · rename_i digit
          have first : 48 ≤ c.toNat := digit.1
          have last : c.toNat ≤ 57 := digit.2
          cases read
          refine ⟨by omega, ?_⟩
          rw [symbol, if_neg (by omega), if_neg (by omega), if_pos (by omega), Nat.add_sub_cancel,
            Char.ofNat_toNat]
        · split at read
          · rename_i plus
            cases read
            exact ⟨by decide, plus ▸ rfl⟩
          · split at read
            · rename_i slash
              cases read
              exact ⟨by decide, slash ▸ rfl⟩
            · cases read
  refine ⟨range.1, range.2, ?_⟩
  rw [← range.2]
  exact (isSymbol_symbol range.1).2.2

/-- **A block is the text of its bytes.** It begins with a symbol, and holds three bytes unless it
ends with padding. -/
theorem encodeChars_of_decodeBlock? {a b c d : Char} {block : Bytes}
    (read : decodeBlock? a b c d = some block) :
    encodeChars block = [a, b, c, d] ∧ a ≠ '=' ∧ (d ≠ '=' → block.length = 3) := by
  unfold decodeBlock? at read
  obtain ⟨x, first, read⟩ := Option.bind_eq_some_iff.mp read
  obtain ⟨y, second, read⟩ := Option.bind_eq_some_iff.mp read
  obtain ⟨boundX, symbolX, solid⟩ := symbol_of_bits? first
  obtain ⟨boundY, symbolY, -⟩ := symbol_of_bits? second
  have size : x * 4 + y / 16 < 256 := by omega
  split at read
  · rename_i padding
    split at read
    · rename_i last
      cases read
      refine ⟨?_, solid, fun unpadded => absurd last.1 unpadded⟩
      rw [encodeChars, UInt8.toNat_ofNat_of_lt' size, padding, last.1,
        show (x * 4 + y / 16) / 4 = x by omega, show (x * 4 + y / 16) % 4 * 16 = y by omega,
        symbolX, symbolY]
    · cases read
  · obtain ⟨z, third, read⟩ := Option.bind_eq_some_iff.mp read
    obtain ⟨boundZ, symbolZ, -⟩ := symbol_of_bits? third
    have middle : y % 16 * 16 + z / 4 < 256 := by omega
    have upper : (x * 4 + y / 16) / 4 = x := by omega
    have across : (x * 4 + y / 16) % 4 * 16 + (y % 16 * 16 + z / 4) / 16 = y := by omega
    split at read
    · rename_i padding
      split at read
      · rename_i zeros
        cases read
        refine ⟨?_, solid, fun unpadded => absurd padding unpadded⟩
        rw [encodeChars, UInt8.toNat_ofNat_of_lt' size, UInt8.toNat_ofNat_of_lt' middle, upper,
          across, show (y % 16 * 16 + z / 4) % 16 * 4 = z by omega, symbolX, symbolY, symbolZ,
          padding]
      · cases read
    · obtain ⟨w, fourth, read⟩ := Option.bind_eq_some_iff.mp read
      obtain ⟨boundW, symbolW, -⟩ := symbol_of_bits? fourth
      cases read
      have lower : z % 4 * 64 + w < 256 := by omega
      refine ⟨?_, solid, fun _ => rfl⟩
      rw [encodeChars, encodeChars, UInt8.toNat_ofNat_of_lt' size,
        UInt8.toNat_ofNat_of_lt' middle, UInt8.toNat_ofNat_of_lt' lower, upper, across,
        show (y % 16 * 16 + z / 4) % 16 * 4 + (z % 4 * 64 + w) / 64 = z by omega,
        show (z % 4 * 64 + w) % 64 = w by omega, symbolX, symbolY, symbolZ, symbolW]

/-- **Block by block.** What is read is nothing, or a block and what is read behind it. -/
@[elab_as_elim]
theorem decodeChars?_induction {motive : List Char → Bytes → Prop} (nil : motive [] [])
    (block : ∀ a b c d rest first others, decodeBlock? a b c d = some first →
      decodeChars? rest = some others → motive rest others →
      motive (a :: b :: c :: d :: rest) (first ++ others))
    {text : List Char} {bytes : Bytes} (read : decodeChars? text = some bytes) :
    motive text bytes := by
  induction text using decodeChars?.induct generalizing bytes with
  | case1 =>
    cases read
    exact nil
  | case2 a b c d rest ih =>
    unfold decodeChars? at read
    obtain ⟨first, own, read⟩ := Option.bind_eq_some_iff.mp read
    obtain ⟨others, remaining, read⟩ := Option.bind_eq_some_iff.mp read
    cases read
    exact block a b c d rest first others own remaining (ih remaining)
  | case3 text nonempty short =>
    rw [decodeChars?] at read
    · cases read
    · exact nonempty
    · exact short

/-! ### Rows of texts -/

/-- A row of texts, one for each of the pieces that a byte string is cut into. -/
def IsRowOf (bytes : Bytes) (text : String) : Prop :=
  ∃ pieces : List Bytes, pieces.flatten = bytes ∧ text = String.join (pieces.map encode)

theorem toList_join_map_encode (pieces : List Bytes) :
    (String.join (pieces.map encode)).toList = pieces.flatMap encodeChars := by
  rw [String.toList_join, List.flatMap_map]
  unfold encode
  simp only [String.toList_ofList]

/-- Bytes are read from a row of texts, piece by piece. -/
theorem decodeChars?_flatMap_encodeChars (pieces : List Bytes) :
    decodeChars? (pieces.flatMap encodeChars) = some pieces.flatten := by
  induction pieces with
  | nil => rfl
  | cons piece others ih =>
    rw [List.flatMap_cons, decodeChars?_encodeChars_append, ih, List.flatten_cons]
    rfl

/-- What is read is a row of texts: every block is the text of its own bytes. -/
theorem exists_pieces_of_decodeChars? {text : List Char} {bytes : Bytes}
    (read : decodeChars? text = some bytes) :
    ∃ pieces : List Bytes, pieces.flatten = bytes ∧ text = pieces.flatMap encodeChars := by
  refine decodeChars?_induction ⟨[], rfl, rfl⟩ ?_ read
  rintro a b c d rest first others own - ⟨pieces, rfl, rfl⟩
  refine ⟨first :: pieces, rfl, ?_⟩
  rw [List.flatMap_cons, (encodeChars_of_decodeBlock? own).1]
  rfl

/-- **What is read as a byte string are the rows of texts of its pieces.** -/
theorem decode?_eq_some_iff {text : String} {bytes : Bytes} :
    decode? text = some bytes ↔ IsRowOf bytes text := by
  unfold decode?
  constructor
  · intro read
    obtain ⟨pieces, whole, row⟩ := exists_pieces_of_decodeChars? read
    exact ⟨pieces, whole, String.toList_injective (row.trans (toList_join_map_encode pieces).symm)⟩
  · rintro ⟨pieces, rfl, rfl⟩
    rw [toList_join_map_encode, decodeChars?_flatMap_encodeChars]

/-! ### Padding at the end -/

/-- Nothing but padding follows padding. -/
def PadsLast (text : List Char) : Prop := text.Pairwise fun c later => c = '=' → later = '='

theorem IsSymbol.ne_padding {c : Char} {bits : Nat} (symbol : IsSymbol c bits) : c ≠ '=' := by
  rintro rfl
  have member : '=' ∈ alphabet := List.mem_of_getElem? symbol
  exact absurd member (by decide)

theorem IsCanonical.padsLast {text : List Char} (canonical : IsCanonical text) : PadsLast text := by
  unfold PadsLast
  induction canonical with
  | empty => exact .nil
  | oneByte first second _ => simp [first.ne_padding, second.ne_padding]
  | twoBytes first second third _ =>
    simp [first.ne_padding, second.ne_padding, third.ne_padding]
  | block first second third fourth _ ih =>
    simpa [first.ne_padding, second.ne_padding, third.ne_padding, fourth.ne_padding] using ih

/-- Three bytes fill a block, so that the text of what follows them is not disturbed. -/
theorem encodeChars_append {block : Bytes} (full : block.length = 3) (others : Bytes) :
    encodeChars (block ++ others) = encodeChars block ++ encodeChars others := by
  match block, full with
  | [_, _, _], _ => rfl

/-- No text that is read begins with padding. -/
theorem eq_nil_of_padding {text : List Char} {bytes : Bytes} (read : decodeChars? text = some bytes)
    (padding : ∀ c ∈ text, c = '=') : text = [] := by
  revert padding
  refine decodeChars?_induction (fun _ => rfl) ?_ read
  intro a b c d rest first others own _ _ padding
  exact absurd (padding a List.mem_cons_self) (encodeChars_of_decodeBlock? own).2.1

/-- A text in which padding is at the end only is the text of its bytes. Where a block is padded, no
other follows; the blocks in front of it are full. -/
theorem encodeChars_of_padsLast {text : List Char} {bytes : Bytes}
    (read : decodeChars? text = some bytes) (padsLast : PadsLast text) :
    encodeChars bytes = text := by
  revert padsLast
  refine decodeChars?_induction (fun _ => rfl) ?_ read
  intro a b c d rest first others own remaining ih padsLast
  obtain ⟨text, -, full⟩ := encodeChars_of_decodeBlock? own
  have fromLast : PadsLast (d :: rest) := List.Pairwise.of_cons (.of_cons (.of_cons padsLast))
  obtain ⟨follows, restPadsLast⟩ := List.pairwise_cons.mp fromLast
  by_cases padded : d = '='
  · have nothing : rest = [] :=
      eq_nil_of_padding remaining fun c member => follows c member padded
    subst nothing
    cases remaining
    rw [List.append_nil, text]
  · rw [encodeChars_append (full padded), text, ih restPadsLast]
    rfl

/-- **Of all texts that are read as a byte string, one pads at the end only**, and it is the text of
the byte string. -/
theorem encode_eq_iff_padsLast {text : String} {bytes : Bytes} (read : decode? text = some bytes) :
    encode bytes = text ↔ PadsLast text.toList := by
  constructor
  · rintro rfl
    exact (isCanonical_encode bytes).padsLast
  · intro padsLast
    rw [encode, encodeChars_of_padsLast read padsLast, String.ofList_toList]

/-! ### The first byte for itself -/

/-- The row of texts of a byte string whose first byte stands in a block of its own. -/
def regrouped (bytes : Bytes) : String := encode (bytes.take 1) ++ encode (bytes.drop 1)

theorem isRowOf_regrouped (bytes : Bytes) : IsRowOf bytes (regrouped bytes) := by
  refine ⟨[bytes.take 1, bytes.drop 1], ?_, ?_⟩
  · rw [List.flatten_cons, List.flatten_cons, List.flatten_nil, List.append_nil,
      List.take_append_drop]
  · simp [regrouped, String.join]

/-- The padding of the first byte stands in front of the others. -/
theorem not_padsLast_regrouped {bytes : Bytes} (long : 2 ≤ bytes.length) :
    ¬ PadsLast (regrouped bytes).toList := by
  intro padsLast
  match bytes, long with
  | first :: second :: others, _ =>
    rw [regrouped, String.toList_append] at padsLast
    obtain ⟨-, -, across⟩ := List.pairwise_append.mp padsLast
    have padding : '=' ∈ (encode [first]).toList := by simp [encode, encodeChars]
    have nothing : (encode (second :: others)).toList = [] :=
      eq_nil_of_padding (decode?_encode (second :: others)) fun c member =>
        across '=' padding c member rfl
    have size := length_encode (second :: others)
    rw [nothing, List.length_nil, List.length_cons] at size
    omega

end LogProbe.Base64
