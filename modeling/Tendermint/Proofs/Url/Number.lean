import Mathlib.Data.List.Induction
import Tendermint.Url.Host

/-!
# Tendermint.Proofs.Url.Number

Numbers in the hosts of URLs. The digits of a number in a base are read as that number, and a few
digits make a small number.

* `Host.numberIn?_toDigits`: a number in its digits.
* `Host.mem_toDigits`: what digits there are.
* `Host.numberIn?_lt`: a bound by the count of digits.
-/

namespace Tendermint.Host

variable {base : Nat} {text : List Char} {c : Char}

theorem digitIn?_digitChar (few : base ≤ 16) {k : Nat} (small : k < base) :
    digitIn? base (Nat.digitChar k) = some k := by
  have all : ∀ base ≤ 16, ∀ k < base, digitIn? base (Nat.digitChar k) = some k := by decide
  exact all base few k small

theorem digitIn?_lt {d : Nat} (read : digitIn? base c = some d) : d < base := by
  simp only [digitIn?, Option.ite_none_right_eq_some, Option.some.injEq] at read
  obtain ⟨small, rfl⟩ := read
  exact small

theorem numberIn?_concat (base : Nat) (text : List Char) (c : Char) :
    numberIn? base (text ++ [c]) =
      (numberIn? base text).bind fun n => (digitIn? base c).map (n * base + ·) := by
  simp [numberIn?, List.foldl_append]

theorem numberIn?_toDigits (two : 1 < base) (few : base ≤ 16) (n : Nat) :
    numberIn? base (Nat.toDigits base n) = some n := by
  induction n using Nat.strongRecOn with
  | ind n ih =>
    by_cases small : n < base
    · rw [Nat.toDigits_of_lt_base small]
      simp [numberIn?, digitIn?_digitChar few small]
    · have large : base ≤ n := Nat.not_lt.1 small
      have digit : n % base < base := Nat.mod_lt n (by omega)
      rw [Nat.toDigits_of_base_le two large, numberIn?_concat,
        ih (n / base) (Nat.div_lt_self (by omega) two), Option.bind_some,
        digitIn?_digitChar few digit, Option.map_some, Nat.mul_comm, Nat.div_add_mod]

theorem mem_toDigits (two : 1 < base) {n : Nat} (h : c ∈ Nat.toDigits base n) :
    ∃ k < base, c = Nat.digitChar k := by
  induction n using Nat.strongRecOn with
  | ind n ih =>
    by_cases small : n < base
    · rw [Nat.toDigits_of_lt_base small, List.mem_singleton] at h
      exact ⟨n, small, h⟩
    · rw [Nat.toDigits_of_base_le two (Nat.not_lt.1 small), List.mem_append,
        List.mem_singleton] at h
      obtain h | rfl := h
      · exact ih (n / base) (Nat.div_lt_self (by omega) two) h
      · exact ⟨n % base, Nat.mod_lt n (by omega), rfl⟩

/-- A number with some digits is small. -/
theorem numberIn?_lt {n : Nat} (read : numberIn? base text = some n) :
    n < Nat.pow base text.length := by
  induction text using List.reverseRecOn generalizing n with
  | nil =>
    cases read
    exact Nat.one_pos
  | append_singleton text c ih =>
    rw [numberIn?_concat] at read
    obtain ⟨m, front, read⟩ := Option.bind_eq_some_iff.1 read
    obtain ⟨d, digit, rfl⟩ := Option.map_eq_some_iff.1 read
    have small := digitIn?_lt digit
    have more : Nat.pow base (text ++ [c]).length = Nat.pow base text.length * base := by
      rw [List.length_append]
      rfl
    calc m * base + d
      _ < (m + 1) * base := by
        rw [Nat.add_mul]
        omega
      _ ≤ Nat.pow base text.length * base := Nat.mul_le_mul_right base (ih front)
      _ = Nat.pow base (text ++ [c]).length := more.symm

end Tendermint.Host
