/-
**Labels come back from Punycode.** What is written for a text is read as that text, so that the
rules for a label outside ASCII are those for the text it is written for.

The reader is followed number by number: the digits of a number are read as that number
(`foldlM_digits`), a number leads to the place that it counts the steps to (`insert?_of_steps`), and
what is written so far is read as the text of the characters that have come in (`Stands`).

* `Url.Punycode.decode?_encode` — the round trip.
* `Url.Label.text?_inAscii` — the text that the label of a text stands for.
-/

import Mathlib.Data.List.Basic
import Mathlib.Tactic.Ring
import LogProbe.Url.Label

namespace LogProbe.Url

namespace Punycode

/-! ### Numbers -/

theorem one_le_threshold (bias column : Nat) : 1 ≤ threshold bias column := Nat.le_max_left 1 _

theorem threshold_le (bias column : Nat) : threshold bias column ≤ 26 :=
  Nat.max_le.mpr ⟨by omega, Nat.min_le_left 26 _⟩

theorem digit?_digit {value : Nat} (small : value < 36) : digit? (digit value) = some value := by
  have all : ∀ value : Fin 36, digit? (digit value.val) = some value.val := by decide
  exact all ⟨value, small⟩

theorem read?_of_lt {reader : Reader} {c : Char} {value : Nat} (read : digit? c = some value)
    (least : value < threshold reader.bias reader.column) :
    reader.read? c = { reader with number := reader.number + value * reader.weight }.insert? := by
  simp only [Reader.read?, read, Option.bind_eq_bind, Option.bind_some, if_pos least]

theorem read?_of_le {reader : Reader} {c : Char} {value : Nat} (read : digit? c = some value)
    (least : threshold reader.bias reader.column ≤ value) :
    reader.read? c = some { reader with
      number := reader.number + value * reader.weight
      weight := reader.weight * (36 - threshold reader.bias reader.column)
      column := reader.column + 36 } := by
  simp only [Reader.read?, read, Option.bind_eq_bind, Option.bind_some,
    if_neg (Nat.not_lt.mpr least)]

/-- **The digits of a number are read as that number**, at the weight that the reader has come
to. -/
theorem foldlM_digits (number : Nat) (reader : Reader) :
    (digits reader.bias reader.column number).foldlM Reader.read? reader =
      { reader with number := reader.number + number * reader.weight }.insert? := by
  induction number using Nat.strongRecOn generalizing reader with
  | ind number ih =>
    have positive := one_le_threshold reader.bias reader.column
    have small := threshold_le reader.bias reader.column
    rw [digits]
    generalize same : threshold reader.bias reader.column = least at positive small
    split
    · rename_i short
      rw [List.foldlM_cons, read?_of_lt (digit?_digit (by omega)) (same ▸ short)]
      simp only [List.foldlM_nil, bind_pure]
    · rename_i long
      have rest : (number - least) / (36 - least) < number :=
        Nat.lt_of_le_of_lt (Nat.div_le_self _ _) (by omega)
      have inside : (number - least) % (36 - least) < 36 - least := Nat.mod_lt _ (by omega)
      have whole : least + (number - least) % (36 - least) +
          (number - least) / (36 - least) * (36 - least) = number := by
        have split := Nat.mod_add_div' (number - least) (36 - least)
        omega
      rw [List.foldlM_cons, read?_of_le (digit?_digit (by omega)) (by omega)]
      simp only [Option.bind_eq_bind, Option.bind_some, same]
      refine (ih _ rest { reader with
        number := reader.number + (least + (number - least) % (36 - least)) * reader.weight
        weight := reader.weight * (36 - least)
        column := reader.column + 36 }).trans ?_
      have total : reader.number + (least + (number - least) % (36 - least)) * reader.weight +
          (number - least) / (36 - least) * (reader.weight * (36 - least)) =
          reader.number + number * reader.weight :=
        calc _ = reader.number + (least + (number - least) % (36 - least) +
              (number - least) / (36 - least) * (36 - least)) * reader.weight := by ring
          _ = _ := by rw [whole]
      simp only [total]
      rfl

/-! ### One character -/

/-- What a reader has come to when it has read what is written so far. -/
def Writer.reader (writer : Writer) (text : List Char) : Reader :=
  ⟨text, writer.code, writer.place, writer.bias, 0, 1, 36⟩

/-- What is written so far stands for a text, from where a reader begins. -/
structure Stands (start : Reader) (writer : Writer) (text : List Char) : Prop where
  read : writer.digits.foldlM Reader.read? start = some (writer.reader text)
  length : writer.length = text.length
  inside : writer.place ≤ text.length

/-- A number leads to the character and the place that it counts the steps to: one round through
the places of the text for each code point, and on to the place. -/
theorem insert?_of_steps {reader : Reader} {rounds place : Nat}
    (valid : (reader.code + rounds).isValidChar) (inside : place ≤ reader.text.length)
    (steps : reader.place + reader.number = place + rounds * (reader.text.length + 1)) :
    reader.insert? = some
      { text := reader.text.insertIdx place (Char.ofNat (reader.code + rounds))
        code := reader.code + rounds
        place := place + 1
        bias := biasAfter reader.number reader.place (reader.text.length + 1)
        number := 0
        weight := 1
        column := 36 } := by
  have complete : (reader.place + reader.number) / (reader.text.length + 1) = rounds := by
    rw [steps, Nat.add_mul_div_right _ _ (Nat.succ_pos _), Nat.div_eq_of_lt (by omega), zero_add]
  have left : (reader.place + reader.number) % (reader.text.length + 1) = place := by
    rw [steps, Nat.add_mul_mod_self_right, Nat.mod_eq_of_lt (by omega)]
  simp only [Reader.insert?, complete, left, if_pos valid]

/-- **One more character.** -/
theorem Stands.write {start : Reader} {writer : Writer} {text : List Char}
    (stands : Stands start writer text) {code place : Nat} (valid : code.isValidChar)
    (upwards : writer.code ≤ code) (inside : place ≤ text.length)
    (onwards : writer.code = code → writer.place ≤ place) :
    Stands start (writer.write code place) (text.insertIdx place (Char.ofNat code)) := by
  have after : (text.insertIdx place (Char.ofNat code)).length = text.length + 1 :=
    List.length_insertIdx_of_le_length inside _
  refine ⟨?_, by simp [Writer.write, after, stands.length], by simp [Writer.write, after, inside]⟩
  have reached : writer.place ≤ (code - writer.code) * (text.length + 1) + place := by
    rcases Nat.eq_or_lt_of_le upwards with same | above
    · exact Nat.le_add_left_of_le (onwards same)
    · have round := Nat.mul_le_mul_right (text.length + 1) (show 1 ≤ code - writer.code by omega)
      have within := stands.inside
      omega
  have arrived : writer.code + (code - writer.code) = code := by omega
  show (writer.digits ++ _).foldlM Reader.read? start = _
  rw [List.foldlM_append, stands.read, stands.length]
  refine (foldlM_digits _ (writer.reader text)).trans ?_
  have goal : (writer.code + (code - writer.code)).isValidChar := arrived.symm ▸ valid
  refine (insert?_of_steps goal inside ?_).trans ?_
  · show writer.place +
        (0 + ((code - writer.code) * (text.length + 1) + place - writer.place) * 1) =
      place + (code - writer.code) * (text.length + 1)
    omega
  · simp only [Writer.reader, Writer.write, stands.length, arrived, Nat.zero_add, Nat.mul_one]

/-! ### One code point -/

theorem insertIdx_length (front back : List Char) (c : Char) :
    (front ++ back).insertIdx front.length c = front ++ c :: back := by
  induction front with
  | nil => rfl
  | cons d front ih => exact congrArg (d :: ·) ih

/-- A code point comes in everywhere in the rest of a text, behind the characters that are done. -/
theorem Stands.foldl_places {start : Reader} {code : Nat} (valid : code.isValidChar)
    {done rest : List Char} {writer writer' : Writer}
    (stands : Stands start writer (done ++ rest.filter (·.toNat < code)))
    (upwards : writer.code ≤ code) (onwards : writer.code = code → writer.place ≤ done.length)
    (written : (places code done.length rest).foldl
      (fun writer place => writer.write code place) writer = writer') :
    Stands start writer' (done ++ rest.filter (·.toNat ≤ code)) ∧ writer'.code ≤ code := by
  induction rest generalizing done writer with
  | nil =>
    cases written
    exact ⟨stands, upwards⟩
  | cons c rest ih =>
    have further : (done ++ [c]).length = done.length + 1 := by simp
    rcases Nat.lt_trichotomy c.toNat code with below | rfl | above
    · -- It is in the text already, and one more is done.
      rw [places, if_neg (Nat.ne_of_lt below), if_pos below, ← further] at written
      rw [List.filter_cons_of_pos (by simpa using below), List.append_cons] at stands
      rw [List.filter_cons_of_pos (by simpa using Nat.le_of_lt below), List.append_cons]
      exact ih stands upwards
        (fun same => further ▸ Nat.le_succ_of_le (onwards same)) written
    · -- It comes in here.
      rw [places, if_pos rfl, ← further] at written
      rw [List.filter_cons_of_neg (by simp)] at stands
      rw [List.filter_cons_of_pos (by simp), List.append_cons]
      have came := stands.write valid upwards (by simp) onwards
      rw [insertIdx_length, Char.ofNat_toNat, List.append_cons] at came
      exact ih came le_rfl (fun _ => further.ge) written
    · -- It comes in later.
      rw [places, if_neg (Nat.ne_of_gt above), if_neg (Nat.not_lt_of_gt above)] at written
      rw [List.filter_cons_of_neg (by simpa using Nat.le_of_lt above)] at stands
      rw [List.filter_cons_of_neg (by simpa using above)]
      exact ih stands upwards onwards written

/-! ### All characters -/

theorem nodup_eraseDups (codes : List Nat) : codes.eraseDups.Nodup := by
  induction size : codes.length using Nat.strongRecOn generalizing codes with
  | ind length ih =>
    cases codes with
    | nil => exact List.nodup_nil
    | cons code codes =>
      rw [List.eraseDups_cons, List.nodup_cons]
      refine ⟨by simp [List.mem_eraseDups], ih _ ?_ _ rfl⟩
      have shorter := List.length_filter_le (fun other => !other == code) codes
      rw [← size, List.length_cons]
      omega

theorem mem_codes {text : List Char} {code : Nat} :
    code ∈ codes text ↔ 0x80 ≤ code ∧ ∃ c ∈ text, c.toNat = code := by
  simp [codes, List.mem_mergeSort, List.mem_eraseDups, and_comm]

/-- The code points come in upwards. -/
theorem pairwise_codes (text : List Char) : (codes text).Pairwise (· < ·) := by
  have sorted : (codes text).Pairwise (· ≤ ·) :=
    (List.pairwise_mergeSort (by simp; omega) (by simp; omega) _).imp (by simp)
  have distinct : (codes text).Nodup :=
    (List.mergeSort_perm _ _).nodup_iff.mpr (nodup_eraseDups _)
  exact sorted.imp₂ (fun _ _ le ne => Nat.lt_of_le_of_ne le ne) distinct

/-- All code points that are left come in, where those that are in are the smaller ones. -/
theorem Stands.foldl_writeAll {start : Reader} {text : List Char} {left : List Nat}
    (upwards : left.Pairwise (· < ·)) (valid : ∀ code ∈ left, code.isValidChar)
    (smaller : ∀ c ∈ text, c.toNat ∉ left → ∀ code ∈ left, c.toNat < code)
    {writer : Writer} (stands : Stands start writer (text.filter (·.toNat ∉ left)))
    (next : ∀ code ∈ left, writer.code ≤ code ∧ (writer.code = code → writer.place = 0)) :
    Stands start (left.foldl (Writer.writeAll text) writer) text := by
  induction left generalizing writer with
  | nil => simpa using stands
  | cons code left ih =>
    obtain ⟨least, upwards⟩ := List.pairwise_cons.mp upwards
    obtain ⟨behind, fresh⟩ := next code List.mem_cons_self
    -- Before a code point comes in, the smaller ones are in; then it is in as well.
    have before : text.filter (·.toNat ∉ code :: left) = text.filter (·.toNat < code) := by
      refine List.filter_congr fun c member => decide_eq_decide.mpr
        ⟨fun outside => smaller c member outside code List.mem_cons_self, fun below among => ?_⟩
      rcases List.mem_cons.mp among with same | later
      · omega
      · exact Nat.lt_asymm below (least _ later)
    have after {c : Char} (member : c ∈ text) : c.toNat ∉ left ↔ c.toNat ≤ code := by
      refine ⟨fun outside => ?_, fun upTo later => Nat.not_lt_of_le upTo (least _ later)⟩
      by_cases same : c.toNat = code
      · exact same.le
      · exact (smaller c member (by simp [same, outside]) code List.mem_cons_self).le
    have begun : Stands start writer ([] ++ text.filter (·.toNat < code)) := before ▸ stands
    obtain ⟨came, reached⟩ := begun.foldl_places (valid code List.mem_cons_self) behind
      (fun same => (fresh same).le) rfl
    refine ih upwards (fun other later => valid other (List.mem_cons_of_mem _ later))
      (fun c member outside other later => ((after member).mp outside).trans_lt (least _ later))
      ?_ (fun other later => ?_)
    · rw [List.filter_congr fun c member => decide_eq_decide.mpr (after member)]
      exact came
    · have above := reached.trans_lt (least _ later)
      exact ⟨above.le, fun same => absurd same above.ne⟩

/-! ### A whole text -/

/-- Nothing that can be read is a hyphen. -/
theorem ne_of_foldlM {digits : List Char} {start reader : Reader}
    (read : digits.foldlM Reader.read? start = some reader) : ∀ c ∈ digits, c ≠ '-' := by
  induction digits generalizing start with
  | nil => exact fun c member => absurd member List.not_mem_nil
  | cons c digits ih =>
    rw [List.foldlM_cons, Option.bind_eq_bind, Option.bind_eq_some_iff] at read
    obtain ⟨next, one, others⟩ := read
    refine List.forall_mem_cons.mpr ⟨?_, ih others⟩
    rintro rfl
    cases one

/-- Digits are told from the characters in front of them, which a hyphen ends if there are any. -/
theorem parts_append {front digits : List Char} (plain : ∀ c ∈ digits, c ≠ '-') :
    parts ((if front = [] then [] else front ++ ['-']) ++ digits) = (front, digits) := by
  generalize marked : (if front = [] then [] else front ++ ['-']) = ahead
  have ends : ahead.reverse.takeWhile (· != '-') = [] := by
    rw [← marked]
    split <;> simp
  have before : ahead.dropLast = front := by
    rw [← marked]
    split
    · rename_i none
      exact none.symm
    · exact List.dropLast_concat
  have read : ((ahead ++ digits).reverse.takeWhile (· != '-')).reverse = digits := by
    rw [List.reverse_append, List.takeWhile_append_of_pos (by simpa using plain), ends,
      List.append_nil, List.reverse_reverse]
  have taken : (ahead ++ digits).take ((ahead ++ digits).length - digits.length - 1) = front := by
    rw [List.length_append, Nat.add_sub_cancel, List.take_append_of_le_length (Nat.sub_le _ 1),
      ← List.dropLast_eq_take, before]
  unfold parts
  simp only [read, taken]
  cases front with
  | nil => rw [← marked, if_pos rfl, List.nil_append]
  | cons c front => rfl

/-- **The round trip.** -/
theorem decode?_encode (text : List Char) : decode? (encode text) = some text := by
  have ascii {c : Char} (member : c ∈ text) : c.toNat ∉ codes text ↔ c.toNat < 0x80 := by
    refine ⟨fun outside => Nat.lt_of_not_le fun high => ?_, fun low among => ?_⟩
    · exact outside (mem_codes.mpr ⟨high, c, member, rfl⟩)
    · exact Nat.not_le_of_lt low (mem_codes.mp among).1
  have begins : Stands ⟨text.filter (·.toNat < 0x80), 0x80, 0, 72, 0, 1, 36⟩
      ⟨[], (text.filter (·.toNat < 0x80)).length, 0x80, 0, 72⟩
      (text.filter (·.toNat ∉ codes text)) := by
    rw [List.filter_congr fun c member => decide_eq_decide.mpr (ascii member)]
    exact ⟨rfl, rfl, Nat.zero_le _⟩
  have all := begins.foldl_writeAll (pairwise_codes text)
    (fun code among => ?_) (fun c member outside code among => ?_) (fun code among => ?_)
  · unfold decode?
    simp only [encode, parts_append (ne_of_foldlM all.read), all.read]
    rfl
  · obtain ⟨-, c, -, rfl⟩ := mem_codes.mp among
    exact c.valid
  · exact ((ascii member).mp outside).trans_le (mem_codes.mp among).1
  · exact ⟨(mem_codes.mp among).1, fun _ => rfl⟩

example : encode "bücher".toList = "bcher-kva".toList := by decide +kernel

end Punycode

namespace Label

/-- **A label outside ASCII stands for its text** if it is not too long and the text is one that a
label may stand for. -/
theorem text?_inAscii {text : List Char} (outside : text.all (·.toNat < 0x80) = false) :
    text? (inAscii text) =
      if (Punycode.encode text).length ≤ maxEncoded ∧ isText text then some text else none := by
  have marked : mark.isPrefixOf (mark ++ Punycode.encode text) = true := rfl
  have written : (mark ++ Punycode.encode text).drop mark.length = Punycode.encode text := rfl
  rw [inAscii, if_neg (by simp [outside]), text?, if_pos marked, written]
  simp only [Punycode.decode?_encode]
  by_cases short : (Punycode.encode text).length ≤ maxEncoded
  · simp [short]
  · simp [short]

end Label

end LogProbe.Url
