/-
**Base64 in canonical form.** A byte string has one text: blocks of four symbols of the alphabet,
the last one filled up with one or two `=`, and zeros for the bits that it does not need.

* `Base64.IsCanonical` — the grammar of these texts, over the alphabet as it is printed.
* `Base64.isCanonical_encode` — the text of a byte string is canonical.
* `Base64.decode?_encode` — and the byte string comes back from it.
-/

import LogProbe.Base64

namespace LogProbe.Base64

/-! ### The alphabet -/

/-- The sixty-four symbols in the order of their bits. -/
def alphabet : List Char :=
  "ABCDEFGHIJKLMNOPQRSTUVWXYZabcdefghijklmnopqrstuvwxyz0123456789+/".toList

/-- A symbol of the alphabet and its six bits. -/
def IsSymbol (c : Char) (bits : Nat) : Prop := alphabet[bits]? = some c

/-- Six bits have the symbol at their place in the alphabet, it is read back as these bits, and it
is no padding. -/
theorem isSymbol_symbol {bits : Nat} (six : bits < 64) :
    IsSymbol (symbol bits) bits ∧ bits? (symbol bits) = some bits ∧ symbol bits ≠ '=' := by
  have all : ∀ bits : Fin 64, alphabet[bits.val]? = some (symbol bits.val) ∧
      bits? (symbol bits.val) = some bits.val ∧ symbol bits.val ≠ '=' := by decide +kernel
  exact all ⟨bits, six⟩

theorem bits?_symbol {bits : Nat} (six : bits < 64) : bits? (symbol bits) = some bits :=
  (isSymbol_symbol six).2.1

/-! ### Canonical texts -/

/-- The texts of whole blocks: full ones, and at the end perhaps one that is padded and whose
unneeded bits, four or two of them, are zero. -/
inductive IsCanonical : List Char → Prop where
  | empty : IsCanonical []
  | oneByte {a b : Char} {x y : Nat} : IsSymbol a x → IsSymbol b y → y % 16 = 0 →
      IsCanonical [a, b, '=', '=']
  | twoBytes {a b c : Char} {x y z : Nat} : IsSymbol a x → IsSymbol b y → IsSymbol c z →
      z % 4 = 0 → IsCanonical [a, b, c, '=']
  | block {a b c d : Char} {x y z w : Nat} {rest : List Char} : IsSymbol a x → IsSymbol b y →
      IsSymbol c z → IsSymbol d w → IsCanonical rest → IsCanonical (a :: b :: c :: d :: rest)

theorem isCanonical_encodeChars (bytes : Bytes) : IsCanonical (encodeChars bytes) := by
  induction bytes using encodeChars.induct with
  | case1 => exact .empty
  | case2 a =>
    have bound := a.toNat_lt
    exact .oneByte (isSymbol_symbol (by omega)).1 (isSymbol_symbol (by omega)).1 (by omega)
  | case3 a b =>
    have boundA := a.toNat_lt
    have boundB := b.toNat_lt
    exact .twoBytes (isSymbol_symbol (by omega)).1 (isSymbol_symbol (by omega)).1
      (isSymbol_symbol (by omega)).1 (by omega)
  | case4 a b c rest ih =>
    have boundA := a.toNat_lt
    have boundB := b.toNat_lt
    have boundC := c.toNat_lt
    exact .block (isSymbol_symbol (by omega)).1 (isSymbol_symbol (by omega)).1
      (isSymbol_symbol (by omega)).1 (isSymbol_symbol (by omega)).1 ih

/-- **The text of a byte string is canonical.** -/
theorem isCanonical_encode (bytes : Bytes) : IsCanonical (encode bytes).toList := by
  unfold encode
  rw [String.toList_ofList]
  exact isCanonical_encodeChars bytes

/-! ### Back to bytes -/

/-- A byte is put together from its upper and its lower bits. -/
theorem ofNat_eq_of_toNat {byte : UInt8} {n : Nat} (number : n = byte.toNat) :
    UInt8.ofNat n = byte := by
  rw [number, UInt8.ofNat_toNat]

theorem decodeBlock?_one (a : UInt8) :
    decodeBlock? (symbol (a.toNat / 4)) (symbol (a.toNat % 4 * 16)) '=' '=' = some [a] := by
  have bound := a.toNat_lt
  have first : UInt8.ofNat (a.toNat / 4 * 4 + a.toNat % 4 * 16 / 16) = a :=
    ofNat_eq_of_toNat (by omega)
  have zeros : a.toNat % 4 * 16 % 16 = 0 := by omega
  unfold decodeBlock?
  rw [bits?_symbol (by omega), bits?_symbol (by omega)]
  simp only [Option.bind_eq_bind, Option.bind_some, if_true, zeros, and_self, first]

theorem decodeBlock?_two (a b : UInt8) :
    decodeBlock? (symbol (a.toNat / 4)) (symbol (a.toNat % 4 * 16 + b.toNat / 16))
      (symbol (b.toNat % 16 * 4)) '=' = some [a, b] := by
  have boundA := a.toNat_lt
  have boundB := b.toNat_lt
  have first : UInt8.ofNat (a.toNat / 4 * 4 + (a.toNat % 4 * 16 + b.toNat / 16) / 16) = a :=
    ofNat_eq_of_toNat (by omega)
  have second : UInt8.ofNat ((a.toNat % 4 * 16 + b.toNat / 16) % 16 * 16 +
      b.toNat % 16 * 4 / 4) = b := ofNat_eq_of_toNat (by omega)
  have zeros : b.toNat % 16 * 4 % 4 = 0 := by omega
  have solid : symbol (b.toNat % 16 * 4) ≠ '=' := (isSymbol_symbol (by omega)).2.2
  unfold decodeBlock?
  rw [bits?_symbol (by omega), bits?_symbol (by omega), bits?_symbol (by omega)]
  simp only [Option.bind_eq_bind, Option.bind_some, if_neg solid, if_true, zeros, first, second]

theorem decodeBlock?_three (a b c : UInt8) :
    decodeBlock? (symbol (a.toNat / 4)) (symbol (a.toNat % 4 * 16 + b.toNat / 16))
      (symbol (b.toNat % 16 * 4 + c.toNat / 64)) (symbol (c.toNat % 64)) = some [a, b, c] := by
  have boundA := a.toNat_lt
  have boundB := b.toNat_lt
  have boundC := c.toNat_lt
  have first : UInt8.ofNat (a.toNat / 4 * 4 + (a.toNat % 4 * 16 + b.toNat / 16) / 16) = a :=
    ofNat_eq_of_toNat (by omega)
  have second : UInt8.ofNat ((a.toNat % 4 * 16 + b.toNat / 16) % 16 * 16 +
      (b.toNat % 16 * 4 + c.toNat / 64) / 4) = b := ofNat_eq_of_toNat (by omega)
  have third : UInt8.ofNat ((b.toNat % 16 * 4 + c.toNat / 64) % 4 * 64 + c.toNat % 64) = c :=
    ofNat_eq_of_toNat (by omega)
  have solidC : symbol (b.toNat % 16 * 4 + c.toNat / 64) ≠ '=' :=
    (isSymbol_symbol (by omega)).2.2
  have solidD : symbol (c.toNat % 64) ≠ '=' := (isSymbol_symbol (by omega)).2.2
  unfold decodeBlock?
  rw [bits?_symbol (by omega), bits?_symbol (by omega), bits?_symbol (by omega),
    bits?_symbol (by omega)]
  simp only [Option.bind_eq_bind, Option.bind_some, if_neg solidC, if_neg solidD, first, second,
    third]

/-- Whole blocks are read one by one, whatever the padding of the last one. -/
theorem decodeChars?_encodeChars_append (bytes : Bytes) (rest : List Char) :
    decodeChars? (encodeChars bytes ++ rest) = (decodeChars? rest).map (bytes ++ ·) := by
  induction bytes using encodeChars.induct with
  | case1 => exact (Option.map_id_apply ..).symm
  | case2 a =>
    simp only [encodeChars, List.cons_append, List.nil_append, decodeChars?, decodeBlock?_one]
    exact Option.map_eq_bind.symm
  | case3 a b =>
    simp only [encodeChars, List.cons_append, List.nil_append, decodeChars?, decodeBlock?_two]
    exact Option.map_eq_bind.symm
  | case4 a b c others ih =>
    simp only [encodeChars, List.cons_append, decodeChars?, decodeBlock?_three, ih]
    cases decodeChars? rest <;> rfl

/-- **A byte string comes back from its text.** -/
theorem decode?_encode (bytes : Bytes) : decode? (encode bytes) = some bytes := by
  have read := decodeChars?_encodeChars_append bytes []
  rw [List.append_nil] at read
  unfold decode? encode
  rw [String.toList_ofList, read, decodeChars?, Option.map_some, List.append_nil]

/-- Two byte strings do not have the same text. -/
theorem encode_injective {first second : Bytes} (same : encode first = encode second) :
    first = second := by
  have read := decode?_encode first
  rw [same, decode?_encode] at read
  exact (Option.some.inj read).symm

/-! ### Lengths -/

/-- A text has four symbols for every three bytes, the last ones filled up. -/
theorem length_encode (bytes : Bytes) :
    (encode bytes).toList.length = 4 * ((bytes.length + 2) / 3) := by
  unfold encode
  rw [String.toList_ofList]
  induction bytes using encodeChars.induct with
  | case1 => rfl
  | case2 a => simp only [encodeChars, List.length_cons, List.length_nil]
  | case3 a b => simp only [encodeChars, List.length_cons, List.length_nil]
  | case4 a b c rest ih =>
    simp only [encodeChars, List.length_cons, ih]
    omega

end LogProbe.Base64
