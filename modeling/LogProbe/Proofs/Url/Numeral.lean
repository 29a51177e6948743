/-
**Numbers in hosts come back from their digits.** A number that is written in a base is read in that
base again, and a part of an address without zeros in front is read as decimal.

* `Url.numberIn?_toDigits` — a number in a base.
* `Url.numberIn?_lt` — how large a number with so many digits is.
* `Url.partNumber?_toDigits` — a number that is part of an address.
-/

import LogProbe.Proofs.Json.Integer
import LogProbe.Proofs.Url.Percent
import LogProbe.Url.Host

namespace LogProbe.Url

theorem digit?_digitChar {value : Nat} (small : value < 16) :
    Percent.digit? (Nat.digitChar value) = some value := by
  have all : ∀ value : Fin 16, Percent.digit? (Nat.digitChar value.val) = some value.val := by
    decide
  exact all ⟨value, small⟩

/-- One more digit of a number. -/
theorem numberIn?_concat {base value digit : Nat} {front : List Char}
    (read : numberIn? base front = some value) (small : digit < base) (hex : base ≤ 16) :
    numberIn? base (front ++ [Nat.digitChar digit]) = some (value * base + digit) := by
  unfold numberIn? at read ⊢
  rw [List.foldlM_append, read]
  simp only [Option.bind_eq_bind, Option.bind_some, List.foldlM_cons, List.foldlM_nil,
    digit?_digitChar (show digit < 16 by omega), if_pos small]
  rfl

/-- **A number is read in the base that it is written in.** -/
theorem numberIn?_toDigits {base : Nat} (proper : 1 < base) (hex : base ≤ 16) (n : Nat) :
    numberIn? base (Nat.toDigits base n) = some n := by
  induction n using Nat.strongRecOn with
  | ind n ih =>
    by_cases small : n < base
    · have read : numberIn? base ([] ++ [Nat.digitChar n]) = some (0 * base + n) :=
        numberIn?_concat rfl small hex
      rwa [List.nil_append, Nat.zero_mul, Nat.zero_add, ← Nat.toDigits_of_lt_base small] at read
    · have front := ih (n / base) (Nat.div_lt_self (by omega) proper)
      rw [Nat.toDigits_of_base_le proper (Nat.le_of_not_lt small),
        numberIn?_concat front (Nat.mod_lt n (by omega)) hex, Nat.div_add_mod']

/-- As many digits as there are make a number below that power of the base. -/
theorem numberIn?_lt {base value : Nat} {digits : List Char}
    (read : numberIn? base digits = some value) : value < Nat.pow base digits.length := by
  have bounded (digits : List Char) : ∀ front,
      digits.foldlM (fun value c => do
        let digit ← Percent.digit? c
        if digit < base then some (value * base + digit) else none) front = some value →
      value < (front + 1) * Nat.pow base digits.length := by
    induction digits with
    | nil =>
      intro front found
      have same := Option.some.inj found
      show value < (front + 1) * 1
      omega
    | cons c rest ih =>
      intro front found
      rw [List.foldlM_cons] at found
      obtain ⟨next, first, others⟩ := Option.bind_eq_some_iff.mp found
      obtain ⟨digit, -, first⟩ := Option.bind_eq_some_iff.mp first
      obtain ⟨small, same⟩ := Option.ite_none_right_eq_some.mp first
      cases same
      have grown : front * base + digit + 1 ≤ (front + 1) * base := by
        rw [Nat.add_mul]
        omega
      calc value < (front * base + digit + 1) * Nat.pow base rest.length := ih _ others
        _ ≤ (front + 1) * base * Nat.pow base rest.length := Nat.mul_le_mul_right _ grown
        _ = (front + 1) * Nat.pow base (rest.length + 1) := by
          rw [Nat.mul_assoc, Nat.mul_comm base]
          rfl
  have small := bounded digits 0 read
  rwa [Nat.zero_add, Nat.one_mul] at small

/-- What holds of the decimal digits among the ASCII characters holds of each. -/
theorem forall_isDecimal {P : Char → Prop}
    (each : ∀ code : Fin 128, isDecimal (Char.ofNat code) = true → P (Char.ofNat code)) {c : Char}
    (decimal : isDecimal c = true) : P c := by
  have ascii : c.toNat < 128 := by
    obtain ⟨-, last⟩ := (Bool.and_eq_true _ _).mp decimal
    have last : c.toNat ≤ '9'.toNat := of_decide_eq_true last
    exact Nat.lt_of_le_of_lt last (by decide)
  exact Percent.forall_ascii (P := fun c => isDecimal c = true → P c) each ascii decimal

theorem isDecimal_of_mem_toDigits {n : Nat} : ∀ c ∈ Nat.toDigits 10 n, isDecimal c = true :=
  Json.isDigit_of_mem_toDigits

/-- **A number in decimal is a part of an address**: without zeros in front, no other base is
meant. -/
theorem partNumber?_toDigits (n : Nat) : partNumber? (Nat.toDigits 10 n) = some n := by
  have read : numberIn? 10 (Nat.toDigits 10 n) = some n :=
    numberIn?_toDigits (by omega) (by omega) n
  obtain ⟨c, rest, digits, leading⟩ := Json.exists_toDigits_eq n
  rw [digits] at read ⊢
  by_cases zero : c = '0'
  · obtain ⟨-, rfl⟩ := leading zero
    subst zero
    exact read
  · unfold partNumber?
    split
    · contradiction
    · rename_i same
      exact absurd (List.cons.inj same).1 zero
    · rename_i same
      exact absurd (List.cons.inj same).1 zero
    · rename_i same
      exact absurd (List.cons.inj same).1 zero
    · exact read

/-- **A number in hexadecimal is made of digits.** -/
theorem isDigit_of_mem_toDigits {n : Nat} : ∀ c ∈ Nat.toDigits 16 n, Percent.IsDigit c := by
  induction n using Nat.strongRecOn with
  | ind n ih =>
    have last (small : n % 16 < 16) : ∀ c ∈ [Nat.digitChar (n % 16)], Percent.IsDigit c := by
      intro c member
      rw [List.mem_singleton.mp member, Percent.IsDigit, digit?_digitChar small]
      rfl
    by_cases small : n < 16
    · rw [Nat.toDigits_of_lt_base small]
      rw [Nat.mod_eq_of_lt small] at last
      exact last small
    · rw [Nat.toDigits_of_base_le (by omega) (Nat.le_of_not_lt small)]
      exact List.forall_mem_append.mpr
        ⟨ih (n / 16) (by omega), last (Nat.mod_lt n (by omega))⟩

theorem not_mem_toDigits {c : Char} (noDigit : Percent.digit? c = none) (n : Nat) :
    c ∉ Nat.toDigits 16 n := by
  intro member
  have digit := isDigit_of_mem_toDigits c member
  rw [Percent.IsDigit, noDigit] at digit
  cases digit

end LogProbe.Url
