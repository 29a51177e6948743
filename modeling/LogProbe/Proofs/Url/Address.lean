/-
**Addresses come back from their texts.** An address of four bytes is four numbers between dots. One
of eight pieces has them between colons, and the longest run of zeros that is left out is put in
again.

* `Url.ipv4?_octets`, `Url.ipv4?_lt` — addresses of four bytes.
* `Url.splitAtGap_joined` — where the gap of an address is found.
* `Url.ipv6?_addressText`, `Url.isAddress_of_ipv6?` — addresses of eight pieces.
-/

import LogProbe.Proofs.Json.Record
import LogProbe.Proofs.Url.Numeral
import Mathlib.Data.List.Induction
import Mathlib.Data.List.TakeWhile

namespace LogProbe.Url

/-- What stands between separators, and they themselves. -/
theorem mem_intercalate {separator c : Char} {items : List (List Char)}
    (member : c ∈ [separator].intercalate items) : c = separator ∨ ∃ item ∈ items, c ∈ item := by
  induction items with
  | nil => cases member
  | cons item rest ih =>
    cases rest with
    | nil =>
      rw [List.intercalate_singleton] at member
      exact .inr ⟨item, List.mem_cons_self, member⟩
    | cons next rest =>
      rw [List.intercalate_cons_cons, List.append_assoc] at member
      rcases List.mem_append.mp member with inside | behind
      · exact .inr ⟨item, List.mem_cons_self, inside⟩
      rcases List.mem_cons.mp behind with same | inside
      · exact .inl same
      rcases ih inside with same | ⟨other, among, inside⟩
      · exact .inl same
      · exact .inr ⟨other, List.mem_cons_of_mem item among, inside⟩

/-! ### Addresses of four bytes -/

/-- The decimal numbers of an address of four bytes. -/
def octets (address : Nat) : List (List Char) :=
  (Bytes.ofNat 4 address).map fun byte => Nat.toDigits 10 byte.toNat

theorem text_ipv4 (address : Nat) :
    (Host.ipv4 address).text.toList = ['.'].intercalate (octets address) := by
  simp [Host.text, octets, String.toList_intercalate, Function.comp_def]

theorem splitOn_octets (address : Nat) :
    (['.'].intercalate (octets address)).splitOn '.' = octets address := by
  refine List.splitOn_intercalate '.' (fun octet member dot => ?_) ?_
  · obtain ⟨byte, -, rfl⟩ := List.mem_map.mp member
    exact absurd (isDecimal_of_mem_toDigits '.' dot) (by decide)
  · exact List.ne_nil_of_length_pos (by simp [octets, Bytes.length_ofNat])

theorem exists_octets_eq (address : Nat) :
    ∃ front last, octets address = front ++ [Nat.toDigits 10 last] :=
  ⟨_, _, List.map_append⟩

/-- A number is no empty part. -/
theorem addressParts_octets (address : Nat) :
    addressParts (['.'].intercalate (octets address)) = octets address := by
  obtain ⟨front, last, split⟩ := exists_octets_eq address
  unfold addressParts
  dsimp only
  rw [splitOn_octets, split, List.getLast?_concat, if_neg]
  intro empty
  have size := Nat.length_toDigits_pos (b := 10) (n := last)
  rw [Option.some.inj empty] at size
  cases size

theorem endsInNumber_octets (address : Nat) :
    endsInNumber (['.'].intercalate (octets address)) = true := by
  obtain ⟨front, last, split⟩ := exists_octets_eq address
  unfold endsInNumber
  rw [addressParts_octets, split, List.getLast?_concat]
  simp [partNumber?_toDigits]

/-- **An address of four bytes is read from its numbers.** -/
theorem ipv4?_octets {address : Nat} (small : address < 4294967296) :
    ipv4? (['.'].intercalate (octets address)) = some address := by
  have numbers : (octets address).mapM partNumber? =
      some ((Bytes.ofNat 4 address).map UInt8.toNat) := by
    unfold octets
    induction Bytes.ofNat 4 address with
    | nil => rfl
    | cons byte rest ih =>
      rw [List.map_cons, List.mapM_cons, partNumber?_toDigits, ih]
      rfl
  unfold ipv4?
  rw [addressParts_octets, numbers]
  simp [Bytes.ofNat, Bytes.toNat]
  omega

/-- As many bytes as there are make a number below that power of 256. -/
theorem toNat_lt (bytes : Bytes) : Bytes.toNat bytes < Nat.pow 256 bytes.length := by
  induction bytes using List.reverseRecOn with
  | nil => exact Nat.one_pos
  | append_singleton front byte ih =>
    have last : byte.toNat < 256 := byte.toNat_lt
    have more : Bytes.toNat (front ++ [byte]) = 256 * Bytes.toNat front + byte.toNat := by
      simp only [Bytes.toNat, List.foldl_append, List.foldl_cons, List.foldl_nil]
    have power : Nat.pow 256 (front ++ [byte]).length = 256 * Nat.pow 256 front.length := by
      rw [List.length_append, Nat.mul_comm]
      rfl
    omega

theorem ipv4?_lt {name : List Char} {address : Nat} (read : ipv4? name = some address) :
    address < 4294967296 := by
  unfold ipv4? at read
  obtain ⟨numbers, -, read⟩ := Option.bind_eq_some_iff.mp read
  obtain ⟨last, ends, read⟩ := Option.bind_eq_some_iff.mp read
  obtain ⟨front, rfl⟩ := List.getLast?_eq_some_iff.mp ends
  obtain ⟨proper, same⟩ := Option.ite_none_left_eq_some.mp read
  rw [List.dropLast_concat] at proper same
  cases same
  simp only [not_or, List.length_append, List.length_singleton] at proper
  obtain ⟨few, fills, -⟩ := proper
  have bytes := toNat_lt (front.map UInt8.ofNat)
  rw [List.length_map] at bytes
  calc Bytes.toNat (front.map UInt8.ofNat) * Nat.pow 256 (4 - front.length) + last
      < (Bytes.toNat (front.map UInt8.ofNat) + 1) * Nat.pow 256 (4 - front.length) := by
        rw [Nat.add_mul]
        omega
    _ ≤ Nat.pow 256 front.length * Nat.pow 256 (4 - front.length) := Nat.mul_le_mul_right _ bytes
    _ = Nat.pow 256 (front.length + (4 - front.length)) := (Nat.pow_add ..).symm
    _ = 4294967296 := by rw [Nat.add_sub_of_le (by omega)]

/-! ### Addresses of eight pieces -/

/-- Pieces in hexadecimal between colons. -/
def joined (pieces : List Nat) : List Char := [':'].intercalate (pieces.map (Nat.toDigits 16))

theorem toList_groups (pieces : List Nat) : (Host.groups pieces).toList = joined pieces := by
  simp [Host.groups, joined, String.toList_intercalate, Function.comp_def]

/-- No gap begins at a character that is no colon. -/
theorem splitAtGap_cons {c : Char} (solid : c ≠ ':') (rest : List Char) :
    splitAtGap (c :: rest) = (splitAtGap rest).map (Prod.map (c :: ·) id) := by
  rw [splitAtGap.eq_def]
  split
  · rename_i same
    exact absurd (List.cons.inj same).1 solid
  · rename_i same
    obtain ⟨rfl, rfl⟩ := List.cons.inj same
    cases splitAtGap rest <;> rfl
  · rename_i same
    cases same

/-- No gap begins at a colon that stands in front of another character. -/
theorem splitAtGap_colon_cons {c : Char} (solid : c ≠ ':') (rest : List Char) :
    splitAtGap (':' :: c :: rest) = (splitAtGap (c :: rest)).map (Prod.map (':' :: ·) id) := by
  rw [splitAtGap.eq_def]
  split
  · rename_i same
    exact absurd (List.cons.inj (List.cons.inj same).2).1 solid
  · rename_i same
    obtain ⟨rfl, rfl⟩ := List.cons.inj same
    cases splitAtGap (c :: rest) <;> rfl
  · rename_i same
    cases same

theorem map_nil_append (found : Option (List Char × List Char)) :
    found.map (Prod.map ([] ++ ·) id) = found := by
  cases found <;> rfl

theorem splitAtGap_append {front : List Char} (solid : ':' ∉ front) (rest : List Char) :
    splitAtGap (front ++ rest) = (splitAtGap rest).map (Prod.map (front ++ ·) id) := by
  induction front with
  | nil => exact (map_nil_append _).symm
  | cons c front ih =>
    obtain ⟨first, others⟩ := not_or.mp (mt List.mem_cons.mpr solid)
    rw [List.cons_append, splitAtGap_cons (Ne.symm first), ih others, Option.map_map]
    rfl

theorem joined_cons_cons (piece next : Nat) (rest : List Nat) :
    joined (piece :: next :: rest) = Nat.toDigits 16 piece ++ ':' :: joined (next :: rest) := by
  simp [joined]

theorem joined_singleton (piece : Nat) : joined [piece] = Nat.toDigits 16 piece := by
  simp [joined]

theorem exists_toDigits_eq_cons (n : Nat) :
    ∃ c rest, Nat.toDigits 16 n = c :: rest ∧ c ≠ ':' := by
  cases digits : Nat.toDigits 16 n with
  | nil =>
    have size := Nat.length_toDigits_pos (b := 16) (n := n)
    rw [digits] at size
    cases size
  | cons c rest =>
    refine ⟨c, rest, rfl, ?_⟩
    rintro rfl
    exact not_mem_toDigits (by decide) n (digits ▸ List.mem_cons_self)

/-- What is joined begins with a digit. -/
theorem exists_joined_eq_cons (piece : Nat) (rest : List Nat) :
    ∃ c more, joined (piece :: rest) = c :: more ∧ c ≠ ':' := by
  obtain ⟨c, tail, digits, solid⟩ := exists_toDigits_eq_cons piece
  cases rest with
  | nil => exact ⟨c, tail, (joined_singleton piece).trans digits, solid⟩
  | cons next rest =>
    rw [joined_cons_cons, digits]
    exact ⟨c, _, rfl, solid⟩

/-- **Between pieces there is no gap.** -/
theorem splitAtGap_joined (pieces : List Nat) (rest : List Char) :
    splitAtGap (joined pieces ++ rest) =
      (splitAtGap rest).map (Prod.map (joined pieces ++ ·) id) := by
  induction pieces with
  | nil => exact (map_nil_append _).symm
  | cons piece others ih =>
    have solid := not_mem_toDigits (c := ':') (by decide) piece
    cases others with
    | nil =>
      rw [joined_singleton]
      exact splitAtGap_append solid rest
    | cons next others =>
      obtain ⟨c, more, starts, noColon⟩ := exists_joined_eq_cons next others
      rw [joined_cons_cons, List.append_assoc, splitAtGap_append solid, List.cons_append]
      rw [starts] at ih ⊢
      rw [List.cons_append, splitAtGap_colon_cons noColon, ← List.cons_append, ih,
        Option.map_map, Option.map_map]
      refine congrArg (Option.map · _) (funext fun pair => Prod.ext ?_ rfl)
      simp

/-- The pieces of an address, each of which has sixteen bits. -/
def ArePieces (pieces : List Nat) : Prop := ∀ piece ∈ pieces, piece < 65536

theorem piece?_toDigits {piece : Nat} (small : piece < 65536) :
    piece? (Nat.toDigits 16 piece) = some piece := by
  have short : (Nat.toDigits 16 piece).length ≤ 4 :=
    (Nat.length_toDigits_le_iff (by omega) (by omega)).mpr small
  have some := Nat.length_toDigits_pos (b := 16) (n := piece)
  unfold piece?
  rw [if_neg, numberIn?_toDigits (by omega) (by omega)]
  rintro (empty | long)
  · rw [empty] at some
    cases some
  · omega

theorem pieces?_toDigits {pieces : List Nat} (small : ArePieces pieces) :
    pieces? (pieces.map (Nat.toDigits 16)) = some pieces := by
  induction pieces with
  | nil => rfl
  | cons piece others ih =>
    obtain ⟨first, rest⟩ := List.forall_mem_cons.mp small
    cases others with
    | nil => simp [pieces?, piece?_toDigits first]
    | cons next others =>
      rw [List.map_cons] at ih
      rw [List.map_cons, List.map_cons, pieces?, piece?_toDigits first, ih rest]
      · rfl
      · simp

/-- **Pieces between colons are read again.** -/
theorem side?_joined {pieces : List Nat} (small : ArePieces pieces) :
    side? (joined pieces) = some pieces := by
  cases pieces with
  | nil => rfl
  | cons piece others =>
    obtain ⟨c, more, starts, -⟩ := exists_joined_eq_cons piece others
    unfold side?
    rw [if_neg (by simp [starts]), joined, List.splitOn_intercalate, pieces?_toDigits small]
    · intro group member colon
      obtain ⟨other, -, rfl⟩ := List.mem_map.mp member
      exact not_mem_toDigits (by decide) other colon
    · simp

/-- What is joined is made of digits and colons. -/
theorem mem_joined {c : Char} {pieces : List Nat} (member : c ∈ joined pieces) :
    c = ':' ∨ Percent.IsDigit c := by
  rcases mem_intercalate member with colon | ⟨group, among, inside⟩
  · exact .inl colon
  · obtain ⟨piece, -, rfl⟩ := List.mem_map.mp among
    exact .inr (isDigit_of_mem_toDigits c inside)

theorem dot_not_mem_joined (pieces : List Nat) : '.' ∉ joined pieces := by
  intro member
  rcases mem_joined member with colon | digit
  · cases colon
  · cases digit

/-- **An address without a gap is read again.** -/
theorem ipv6?_joined {pieces : List Nat} (small : ArePieces pieces) (all : pieces.length = 8) :
    ipv6? (joined pieces) = some pieces := by
  have noGap := splitAtGap_joined pieces []
  rw [List.append_nil] at noGap
  unfold ipv6?
  rw [noGap]
  simp [splitAtGap, side?_joined small, all]

/-- **An address with a gap is read again**, with zeros in the gap. -/
theorem ipv6?_gap {front back : List Nat} (small : ArePieces front) (smallToo : ArePieces back)
    (few : front.length + back.length ≤ 7) :
    ipv6? (joined front ++ ':' :: ':' :: joined back) =
      some (front ++ List.replicate (8 - (front.length + back.length)) 0 ++ back) := by
  unfold ipv6?
  rw [splitAtGap_joined]
  simp [splitAtGap, side?_joined small, side?_joined smallToo, few, dot_not_mem_joined]

/-! ### What addresses are read -/

theorem piece?_lt {group : List Char} {piece : Nat} (read : piece? group = some piece) :
    piece < 65536 := by
  obtain ⟨short, number⟩ := Option.ite_none_left_eq_some.mp read
  obtain ⟨-, short⟩ := not_or.mp short
  calc piece < Nat.pow 16 group.length := numberIn?_lt number
    _ ≤ Nat.pow 16 4 := Nat.pow_le_pow_right (by omega) (by omega)

theorem octet?_le {part : List Char} {value : Nat} (read : octet? part = some value) :
    value ≤ 255 := by
  unfold octet? at read
  split at read
  · cases read
  · cases read
  · obtain ⟨number, -, read⟩ := Option.bind_eq_some_iff.mp read
    obtain ⟨small, same⟩ := Option.ite_none_right_eq_some.mp read
    cases same
    exact small

theorem arePieces_of_embeddedIpv4? {group : List Char} {pieces : List Nat}
    (read : embeddedIpv4? group = some pieces) : ArePieces pieces := by
  unfold embeddedIpv4? at read
  obtain ⟨values, parts, read⟩ := Option.bind_eq_some_iff.mp read
  split at read
  · cases read
    have each := Json.mapM_eq_some_iff.mp parts
    generalize group.splitOn '.' = texts at each
    rcases each with _ | ⟨first, _ | ⟨second, _ | ⟨third, _ | ⟨fourth, _⟩⟩⟩⟩
    have bounds := And.intro (octet?_le first) (octet?_le second)
    have others := And.intro (octet?_le third) (octet?_le fourth)
    simp only [ArePieces, List.forall_mem_cons, List.not_mem_nil, false_implies, implies_true,
      and_true]
    omega
  · cases read

theorem arePieces_of_pieces? {groups : List (List Char)} {pieces : List Nat}
    (read : pieces? groups = some pieces) : ArePieces pieces := by
  induction groups using pieces?.induct generalizing pieces with
  | case1 =>
    cases read
    exact List.forall_mem_nil _
  | case2 group piece found =>
    simp only [pieces?, found] at read
    cases read
    exact List.forall_mem_singleton.mpr (piece?_lt found)
  | case3 group missing =>
    simp only [pieces?, missing] at read
    exact arePieces_of_embeddedIpv4? read
  | case4 group rest more ih =>
    rw [pieces?] at read
    · obtain ⟨piece, first, read⟩ := Option.bind_eq_some_iff.mp read
      obtain ⟨others, behind, read⟩ := Option.bind_eq_some_iff.mp read
      cases read
      exact List.forall_mem_cons.mpr ⟨piece?_lt first, ih behind⟩
    · exact more

theorem arePieces_of_side? {text : List Char} {pieces : List Nat}
    (read : side? text = some pieces) : ArePieces pieces := by
  unfold side? at read
  split at read
  · cases read
    exact List.forall_mem_nil _
  · exact arePieces_of_pieces? read

/-- **An address has eight pieces** of sixteen bits. -/
theorem isAddress_of_ipv6? {text : List Char} {pieces : List Nat}
    (read : ipv6? text = some pieces) : pieces.length = 8 ∧ ArePieces pieces := by
  unfold ipv6? at read
  split at read
  · obtain ⟨whole, side, read⟩ := Option.bind_eq_some_iff.mp read
    obtain ⟨all, same⟩ := Option.ite_none_right_eq_some.mp read
    cases same
    exact ⟨all, arePieces_of_side? side⟩
  · rename_i before after gap
    obtain ⟨-, read⟩ := Option.ite_none_left_eq_some.mp read
    obtain ⟨front, frontSide, read⟩ := Option.bind_eq_some_iff.mp read
    obtain ⟨back, backSide, read⟩ := Option.bind_eq_some_iff.mp read
    obtain ⟨few, same⟩ := Option.ite_none_right_eq_some.mp read
    cases same
    refine ⟨?_, List.forall_mem_append.mpr ⟨List.forall_mem_append.mpr
      ⟨arePieces_of_side? frontSide, ?_⟩, arePieces_of_side? backSide⟩⟩
    · simp only [List.length_append, List.length_replicate]
      omega
    · intro piece member
      rw [List.eq_of_mem_replicate member]
      omega

/-! ### The longest run of zeros -/

/-- The run of zeros that is left out stands in its place. -/
theorem eq_of_zeroRun {pieces : List Nat} {start size : Nat}
    (run : Host.zeroRun (pieces.drop start) = size) :
    pieces = pieces.take start ++ List.replicate size 0 ++ pieces.drop (start + size) := by
  have zeros : (pieces.drop start).takeWhile (· = 0) = List.replicate size 0 := by
    rw [← run]
    refine List.eq_replicate_of_mem fun piece member => ?_
    simpa using List.mem_takeWhile_imp member
  have rest : (pieces.drop start).dropWhile (· = 0) = pieces.drop (start + size) := by
    have whole : (pieces.drop start).takeWhile (· = 0) ++ (pieces.drop start).dropWhile (· = 0) =
        pieces.drop start := List.takeWhile_append_dropWhile
    rw [← List.drop_drop, ← whole, List.drop_left' run, whole]
  rw [← zeros, ← rest, List.append_assoc, List.takeWhile_append_dropWhile, List.take_append_drop]

/-- **The run that is left out** has two zeros or more. -/
theorem longestZeroRun_spec {pieces : List Nat} {start size : Nat}
    (found : Host.longestZeroRun pieces = some (start, size)) :
    2 ≤ size ∧ Host.zeroRun (pieces.drop start) = size := by
  unfold Host.longestZeroRun at found
  generalize List.range pieces.length = places at found
  induction places using List.reverseRecOn generalizing start size with
  | nil => cases found
  | append_singleton places place ih =>
    rw [List.foldl_append, List.foldl_cons, List.foldl_nil] at found
    generalize before : List.foldl _ none places = best at found
    cases best with
    | none =>
      obtain ⟨longer, same⟩ := Option.ite_none_right_eq_some.mp found
      cases same
      exact ⟨longer, rfl⟩
    | some best =>
      have least := ih before
      dsimp only at found
      split at found
      · cases found
        exact ⟨by omega, rfl⟩
      · cases found
        exact least

/-- The text of an address between its brackets. -/
def addressText (pieces : List Nat) : List Char :=
  match Host.longestZeroRun pieces with
  | none => joined pieces
  | some (start, size) =>
    joined (pieces.take start) ++ ':' :: ':' :: joined (pieces.drop (start + size))

theorem text_ipv6 (pieces : List Nat) :
    (Host.ipv6 pieces).text.toList = '[' :: (addressText pieces ++ [']']) := by
  unfold Host.text addressText
  dsimp only
  cases Host.longestZeroRun pieces with
  | none => simp [toList_groups]
  | some run => simp [toList_groups]

/-- **An address of eight pieces is read from its text.** -/
theorem ipv6?_addressText {pieces : List Nat} (all : pieces.length = 8) (small : ArePieces pieces) :
    ipv6? (addressText pieces) = some pieces := by
  unfold addressText
  split
  · exact ipv6?_joined small all
  · rename_i start size found
    obtain ⟨long, run⟩ := longestZeroRun_spec found
    have whole := eq_of_zeroRun run
    have lengths := congrArg List.length whole
    simp only [List.length_append, List.length_replicate, all] at lengths
    rw [ipv6?_gap (fun piece member => small piece (List.mem_of_mem_take member))
      (fun piece member => small piece (List.mem_of_mem_drop member)) (by omega)]
    have same : 8 - ((pieces.take start).length + (pieces.drop (start + size)).length) = size := by
      omega
    rw [same, ← whole]

theorem mem_addressText {c : Char} {pieces : List Nat} (member : c ∈ addressText pieces) :
    c = ':' ∨ Percent.IsDigit c := by
  unfold addressText at member
  split at member
  · exact mem_joined member
  · rcases List.mem_append.mp member with inside | behind
    · exact mem_joined inside
    rcases List.mem_cons.mp behind with colon | behind
    · exact .inl colon
    rcases List.mem_cons.mp behind with colon | inside
    · exact .inl colon
    · exact mem_joined inside

end LogProbe.Url
