import Tendermint.Proofs.Text.RoundTrip
import Tendermint.Url.Percent

/-!
# Tendermint.Proofs.Url.Percent

Percent-encoding happens once. An encoded part of a URL shows nothing that has to be encoded, so
encoding it again leaves it as it is.

* `Shown`: a text with nothing in it that has to be encoded.
* `shown_encode`, `encode_of_shown`.
-/

namespace Tendermint.Url

variable {set : EncodeSet} {text : List Char} {c : Char}

/-- A part of a URL as it may be shown. -/
def Shown (set : EncodeSet) (text : List Char) : Prop :=
  ∀ c ∈ text, 32 ≤ c.toNat ∧ c.toNat < 127 ∧ c ∉ set

instance (set : EncodeSet) (text : List Char) : Decidable (Shown set text) :=
  List.decidableBAll _ text

/-- A set without the characters that encoding writes. -/
def Settled (set : EncodeSet) : Prop :=
  ∀ c ∈ set, c ≠ '%' ∧ ¬ (48 ≤ c.toNat ∧ c.toNat ≤ 57) ∧ ¬ (65 ≤ c.toNat ∧ c.toNat ≤ 70)

instance (set : EncodeSet) : Decidable (Settled set) :=
  List.decidableBAll _ set

theorem settled_fragmentSet : Settled fragmentSet := by decide

theorem settled_pathSet : Settled pathSet := by decide

theorem settled_specialQuerySet : Settled specialQuerySet := by decide

theorem settled_userinfoSet : Settled userinfoSet := by decide

theorem visible_of_shown (blank : ' ' ∈ set) (shown : Shown set text) :
    ∀ c ∈ text, 33 ≤ c.toNat ∧ c.toNat < 127 := by
  intro c hc
  obtain ⟨low, high, outside⟩ := shown c hc
  have other : c.toNat ≠ 32 := by
    intro same
    obtain rfl : c = ' ' := Char.toNat_inj.1 same
    exact outside blank
  exact ⟨by omega, high⟩

theorem mem_encodeByte {byte : UInt8} (h : c ∈ encodeByte byte) :
    c = '%' ∨ (48 ≤ c.toNat ∧ c.toNat ≤ 57) ∨ (65 ≤ c.toNat ∧ c.toNat ≤ 70) := by
  rw [encodeByte, List.mem_cons] at h
  exact h.imp id Hex.upper_of_mem_encodeChars

/-- Encoding brings in percent signs and digits only. -/
theorem mem_encode (h : c ∈ encode set text) :
    c ∈ text ∨ c = '%' ∨ (48 ≤ c.toNat ∧ c.toNat ≤ 57) ∨ (65 ≤ c.toNat ∧ c.toNat ≤ 70) := by
  obtain ⟨d, inside, h⟩ := List.mem_flatMap.1 h
  rw [encodeChar] at h
  split at h
  · obtain ⟨byte, -, h⟩ := List.mem_flatMap.1 h
    exact .inr (mem_encodeByte h)
  · exact .inl (List.mem_singleton.1 h ▸ inside)

theorem shown_encodeByte (settled : Settled set) (byte : UInt8) : Shown set (encodeByte byte) := by
  intro c hc
  obtain rfl | digit := mem_encodeByte hc
  · exact ⟨by decide, by decide, fun inside => (settled _ inside).1 rfl⟩
  · refine ⟨by omega, by omega, fun inside => ?_⟩
    obtain ⟨-, figure, letter⟩ := settled c inside
    exact digit.elim figure letter

theorem shown_encodeChar (settled : Settled set) (c : Char) : Shown set (encodeChar set c) := by
  rw [encodeChar]
  split
  · intro d hd
    obtain ⟨byte, -, hd⟩ := List.mem_flatMap.1 hd
    exact shown_encodeByte settled byte d hd
  · next plain =>
    intro d hd
    obtain rfl := List.mem_singleton.1 hd
    simp only [not_or, Nat.not_lt, Nat.not_le] at plain
    exact plain

theorem shown_encode (settled : Settled set) (text : List Char) : Shown set (encode set text) := by
  intro d hd
  obtain ⟨c, -, hd⟩ := List.mem_flatMap.1 hd
  exact shown_encodeChar settled c d hd

theorem encode_of_shown (shown : Shown set text) : encode set text = text := by
  induction text with
  | nil => rfl
  | cons c rest ih =>
    obtain ⟨⟨low, high, outside⟩, others⟩ := List.forall_mem_cons.1 shown
    have once : encodeChar set c = [c] := by
      rw [encodeChar, if_neg]
      simp only [not_or, Nat.not_lt, Nat.not_le]
      exact ⟨low, high, outside⟩
    have more : encode set rest = rest := ih others
    rw [encode, List.flatMap_cons, once, ← encode, more, List.singleton_append]

/-- Bytes without a percent sign stand for themselves. -/
theorem decode_of_not_mem {bytes : Bytes} (none : 37 ∉ bytes) : decode bytes = bytes := by
  fun_induction decode bytes with
  | case1 | case2 | case3 => rfl
  | case4 | case5 => exact absurd List.mem_cons_self none
  | case6 a b c rest other ih => rw [ih fun inside => none (List.mem_cons_of_mem a inside)]

end Tendermint.Url
