import Mathlib.Data.List.Basic
import Tendermint.Chain.Version

/-!
# Tendermint.Proofs.Digest.LengthPrefix

The length in front of a message is the shortest one there is, and it says where it ends. So a
message behind its length is told apart from every other, whatever follows it, and two transactions
are never hashed as the same bytes.

* `Groups`: a number in groups of seven bits.
* `groups_lengthPrefix`, `Groups.length_le`: a length prefix is such a row of groups, the shortest.
* `Groups.append_inj`: a row of groups ends where it says.
* `length_prefixes_are_canonical`.
-/

namespace Tendermint.Digest

/-- Bytes that stand for a number in groups of seven bits, the lowest group first: the high bit is
set on every byte but the last. -/
inductive Groups : Bytes → Nat → Prop where
  | last {b : UInt8} (low : b.toNat < 128) : Groups [b] b.toNat
  | more {b : UInt8} {rest : Bytes} {n : Nat} (high : 128 ≤ b.toNat) (others : Groups rest n) :
    Groups (b :: rest) (b.toNat - 128 + 128 * n)

namespace Groups

variable {p q x y : Bytes} {m n : Nat}

theorem ne_nil (h : Groups p n) : p ≠ [] := by
  cases h <;> simp

/-- The bytes themselves say where the last group is, and what number they stand for. -/
theorem append_inj (hp : Groups p m) (hq : Groups q n) (same : p ++ x = q ++ y) :
    p = q ∧ m = n ∧ x = y := by
  induction hp generalizing q n with
  | @last b low =>
    cases hq with
    | last low' =>
      simp only [List.singleton_append, List.cons.injEq] at same
      obtain ⟨rfl, rfl⟩ := same
      exact ⟨rfl, rfl, rfl⟩
    | more high others =>
      simp only [List.cons_append, List.cons.injEq] at same
      obtain ⟨rfl, -⟩ := same
      omega
  | @more b rest k high others ih =>
    cases hq with
    | last low =>
      simp only [List.cons_append, List.cons.injEq] at same
      obtain ⟨rfl, -⟩ := same
      omega
    | more high' others' =>
      simp only [List.cons_append, List.cons.injEq] at same
      obtain ⟨rfl, same⟩ := same
      obtain ⟨rfl, rfl, rfl⟩ := ih others' same
      exact ⟨rfl, rfl, rfl⟩

end Groups

/-! ## Length prefixes -/

theorem lengthPrefix_of_lt {n : Nat} (small : n < 128) : lengthPrefix n = [UInt8.ofNat n] := by
  rw [lengthPrefix, if_pos small]

theorem lengthPrefix_of_le {n : Nat} (large : 128 ≤ n) :
    lengthPrefix n = UInt8.ofNat (n % 128 + 128) :: lengthPrefix (n / 128) := by
  rw [lengthPrefix, if_neg (by omega)]

theorem toNat_low {n : Nat} (small : n < 128) : (UInt8.ofNat n).toNat = n :=
  UInt8.toNat_ofNat_of_lt' (by simp only [UInt8.size]; omega)

theorem toNat_high (n : Nat) : (UInt8.ofNat (n % 128 + 128)).toNat = n % 128 + 128 :=
  UInt8.toNat_ofNat_of_lt' (by simp only [UInt8.size]; omega)

theorem groups_lengthPrefix (n : Nat) : Groups (lengthPrefix n) n := by
  induction n using Nat.strongRecOn with
  | ind n ih =>
    by_cases small : n < 128
    · rw [lengthPrefix_of_lt small]
      have value := toNat_low small
      have single : Groups [UInt8.ofNat n] (UInt8.ofNat n).toNat := .last (by omega)
      rwa [value] at single
    · rw [lengthPrefix_of_le (by omega)]
      have value := toNat_high n
      have others := ih (n / 128) (by omega)
      have row := Groups.more (b := UInt8.ofNat (n % 128 + 128)) (by omega) others
      rw [value] at row
      have whole : n % 128 + 128 - 128 + 128 * (n / 128) = n := by omega
      rwa [whole] at row

/-- Whatever groups stand for a number are at least as many as its length prefix has, and those
that are as many are the length prefix. -/
theorem Groups.length_le {p : Bytes} {n : Nat} (h : Groups p n) :
    (lengthPrefix n).length ≤ p.length ∧
      (p.length = (lengthPrefix n).length → p = lengthPrefix n) := by
  induction h with
  | @last b low => simp [lengthPrefix_of_lt low]
  | @more b rest k high others ih =>
    obtain ⟨least, same⟩ := ih
    have small := b.toNat_lt
    have low : (b.toNat - 128 + 128 * k) % 128 + 128 = b.toNat := by omega
    have left : (b.toNat - 128 + 128 * k) / 128 = k := by omega
    by_cases none : k = 0
    · subst none
      have some := List.length_pos_of_ne_nil others.ne_nil
      rw [lengthPrefix_of_lt (by omega)]
      simp only [List.length_cons, List.length_nil]
      omega
    · rw [lengthPrefix_of_le (by omega), low, left, UInt8.ofNat_toNat]
      simp only [List.length_cons, List.cons.injEq, true_and]
      exact ⟨by omega, fun length => same (by omega)⟩

theorem getLast?_lengthPrefix (n : Nat) : (lengthPrefix n).getLast? = some 0 ↔ n = 0 := by
  induction n using Nat.strongRecOn with
  | ind n ih =>
    by_cases small : n < 128
    · rw [lengthPrefix_of_lt small, List.getLast?_singleton, Option.some.injEq, ← UInt8.toNat_inj,
        toNat_low small]
      rfl
    · obtain ⟨c, rest, more⟩ := List.exists_cons_of_ne_nil (groups_lengthPrefix (n / 128)).ne_nil
      rw [lengthPrefix_of_le (by omega), more, List.getLast?_cons_cons, ← more,
        ih (n / 128) (by omega)]
      omega

theorem lengthPrefix_append_inj {m n : Nat} {x y : Bytes}
    (same : lengthPrefix m ++ x = lengthPrefix n ++ y) : m = n ∧ x = y :=
  ((groups_lengthPrefix m).append_inj (groups_lengthPrefix n) same).2

/-- A message behind its length is told apart from any other, whatever follows. -/
theorem withLength_append_inj {a b x y : Bytes} (same : withLength a ++ x = withLength b ++ y) :
    a = b ∧ x = y := by
  simp only [withLength, List.append_assoc] at same
  obtain ⟨length, rest⟩ := lengthPrefix_append_inj same
  exact List.append_inj rest length

/-- Length prefixes are canonical. The prefix of every length is a row of groups of seven bits for
it: the high bit is set on all bytes but the last, and the groups, read from the lowest, give the
length back. No row for it is shorter, no other is as short, and only that of zero ends in a zero.
No prefix begins another. So what version 0.20 hashes for a transaction, the transaction behind its
length, is that of no other transaction, even when further bytes follow. -/
theorem length_prefixes_are_canonical :
    (∀ n, Groups (lengthPrefix n) n ∧
      (∀ bytes, Groups bytes n → (lengthPrefix n).length ≤ bytes.length ∧
        (bytes.length = (lengthPrefix n).length → bytes = lengthPrefix n)) ∧
      ((lengthPrefix n).getLast? = some 0 ↔ n = 0)) ∧
    (∀ m n, lengthPrefix m <+: lengthPrefix n → m = n) ∧
    (∀ tx, Version.v0_20.hashTx tx = ⟨Ripemd160.hash (lengthPrefix tx.length ++ tx)⟩) ∧
    ∀ a b x y : Bytes, lengthPrefix a.length ++ a ++ x = lengthPrefix b.length ++ b ++ y →
      a = b ∧ x = y := by
  refine ⟨fun n => ⟨groups_lengthPrefix n, fun bytes => Groups.length_le, getLast?_lengthPrefix n⟩,
    ?_, fun tx => rfl, fun a b x y same => withLength_append_inj same⟩
  rintro m n ⟨rest, same⟩
  rw [← List.append_nil (lengthPrefix n)] at same
  exact (lengthPrefix_append_inj same).1

/-- The two groups of 300 are its prefix. The prefix of 44 does not begin it, and a message of one
byte with a byte behind it is not the message of both. -/
theorem length_prefix_of_300 :
    (Groups [0xac, 0x02] 300 ∧ [0xac, 0x02] = lengthPrefix 300) ∧
    (¬ lengthPrefix 44 <+: lengthPrefix 300) ∧
    lengthPrefix 1 ++ [7] ++ [9] ≠ lengthPrefix 2 ++ [7, 9] ++ [] := by
  obtain ⟨canonical, free, -, apart⟩ := length_prefixes_are_canonical
  have row : Groups [0xac, 0x02] 300 := .more (by decide) (.last (by decide))
  have two : (lengthPrefix 300).length = 2 := by simp [lengthPrefix]
  obtain ⟨-, shortest, -⟩ := canonical 300
  refine ⟨⟨row, (shortest _ row).2 two.symm⟩, ?_, ?_⟩
  · intro front
    exact absurd (free 44 300 front) (by decide)
  · intro same
    exact absurd (apart [7] [7, 9] [9] [] same).1 (by decide)

end Tendermint.Digest
