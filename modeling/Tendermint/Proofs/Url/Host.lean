import Tendermint.Proofs.Url.Ipv4
import Tendermint.Proofs.Url.Ipv6
import Tendermint.Url.Basic

/-!
# Tendermint.Proofs.Url.Host

The host of a URL is in its normal form once it is read: what is written of it is read as the same
host, and a port can be told from it.

* `Host.IsNormal`, `Host.isNormal_of_ofSpecial`.
* `Host.ofSpecial_text`: a host reads back from its text.
* `Host.splitPort_text`: so it does with a port behind it.
-/

namespace Tendermint

/-- A character that shows, and ends neither an authority nor the credentials in it. -/
def Url.IsInner (c : Char) : Prop :=
  (33 ≤ c.toNat ∧ c.toNat < 127) ∧ c ∉ ['/', '?', '#', '\\', '@']

instance (c : Char) : Decidable (Url.IsInner c) := inferInstanceAs (Decidable (_ ∧ _))

/-- Hexadecimal digits and colons do neither. -/
theorem Url.isInner_of_hex {c : Char}
    (h : 48 ≤ c.toNat ∧ c.toNat ≤ 58 ∨ 97 ≤ c.toNat ∧ c.toNat ≤ 102) : IsInner c := by
  refine ⟨by omega, fun mark => ?_⟩
  simp only [List.mem_cons, List.not_mem_nil, or_false] at mark
  obtain rfl | rfl | rfl | rfl | rfl := mark <;> revert h <;> decide

theorem Url.isInner_of_isDigit {c : Char} (h : c.isDigit = true) : IsInner c := by
  have figure := Integer.toNat_of_isDigit h
  exact isInner_of_hex (.inl (by omega))

namespace Host

variable {host : Host} {text rest : List Char} {c : Char}

/-- The hosts that are read. -/
def IsNormal : Host → Prop
  | .domain name => name ≠ [] ∧ Url.Domain.ofAscii? name = some name ∧ endsInNumber name = false
  | .ipv4 address => address < Nat.pow 256 4
  | .ipv6 pieces => IsIpv6 pieces

theorem isNormal_of_bracketed (read : bracketed text = .ok host) : host.IsNormal := by
  unfold bracketed at read
  split at read
  · split at read
    · next pieces found =>
      cases read
      exact ipv6?_spec found
    · cases read
  · cases read

theorem isNormal_of_ofSpecial (read : ofSpecial text = .ok host) : host.IsNormal := by
  unfold ofSpecial at read
  split at read
  · exact isNormal_of_bracketed read
  · split at read
    · cases read
    · cases read
    · next name some found =>
      split at read
      · split at read
        · next address number =>
          cases read
          exact ipv4?_lt number
        · cases read
      · next letters =>
        cases read
        exact ⟨some, Url.Domain.ofAscii?_of_ofBytes? found, Bool.not_eq_true _ ▸ letters⟩

theorem ofSpecial_text (normal : host.IsNormal) : ofSpecial host.text = .ok host := by
  cases host with
  | domain name =>
    obtain ⟨some, read, letters⟩ := normal
    rw [text, ofSpecial_of_ofAscii? read some, if_neg (by simp [letters])]
  | ipv4 address => exact ofSpecial_ipv4Text normal
  | ipv6 pieces => exact ofSpecial_ipv6Text normal

/-! ## The text of a host inside a URL -/

theorem text_ne_nil (normal : host.IsNormal) : host.text ≠ [] := by
  cases host with
  | domain name => exact normal.1
  | ipv4 address => exact ipv4Text_ne_nil address
  | ipv6 pieces => exact List.cons_ne_nil _ _

/-- Nothing in the text of a host ends it. -/
theorem mem_text (normal : host.IsNormal) (h : c ∈ host.text) : Url.IsInner c := by
  cases host with
  | domain name =>
    obtain ⟨-, fine, -⟩ := Url.Domain.ofAscii?_eq_some.1 normal.2.1
    obtain ⟨low, high, outside⟩ := Url.Domain.of_not_isForbidden (fine c h)
    refine ⟨⟨low, high⟩, fun mark => outside ?_⟩
    simp only [List.mem_cons, List.not_mem_nil, or_false] at mark ⊢
    tauto
  | ipv4 address =>
    obtain digit | rfl := mem_ipv4Text h
    · exact Url.isInner_of_isDigit digit
    · decide
  | ipv6 pieces =>
    simp only [Host.text, List.cons_append, List.mem_cons, List.mem_append, List.not_mem_nil,
      or_false] at h
    obtain rfl | h | rfl := h
    · decide
    · exact Url.isInner_of_hex (mem_ipv6Text h)
    · decide

theorem splitPort_plain (plain : ∀ c ∈ text, c ≠ ':' ∧ c ≠ '[')
    (port : Url.splitPort false rest = ([], rest)) :
    Url.splitPort false (text ++ rest) = (text, rest) := by
  induction text with
  | nil => exact port
  | cons c text ih =>
    obtain ⟨⟨colon, bracket⟩, others⟩ := List.forall_mem_cons.1 plain
    simp [Url.splitPort, colon, bracket, ih others]

theorem splitPort_inside (inside : ']' ∉ text)
    (port : Url.splitPort false rest = ([], rest)) :
    Url.splitPort true (text ++ ']' :: rest) = (text ++ [']'], rest) := by
  induction text with
  | nil => simp [Url.splitPort, port]
  | cons c text ih =>
    obtain ⟨other, others⟩ := List.ne_and_not_mem_of_not_mem_cons inside
    simp [Url.splitPort, other.symm, ih others]

theorem splitPort_text (normal : host.IsNormal) (port : Url.splitPort false rest = ([], rest)) :
    Url.splitPort false (host.text ++ rest) = (host.text, rest) := by
  cases host with
  | domain name =>
    obtain ⟨-, fine, -⟩ := Url.Domain.ofAscii?_eq_some.1 normal.2.1
    refine splitPort_plain (fun c inside => ?_) port
    have outside := (Url.Domain.of_not_isForbidden (fine c inside)).2.2
    constructor <;> rintro rfl <;> exact outside (by decide)
  | ipv4 address =>
    refine splitPort_plain (fun c inside => ?_) port
    constructor <;> rintro rfl <;> exact absurd (mem_ipv4Text inside) (by decide)
  | ipv6 pieces =>
    have inside : ']' ∉ ipv6Text pieces := fun mark => absurd (mem_ipv6Text mark) (by decide)
    have within := splitPort_inside inside port
    simp [Host.text, Url.splitPort, within]

end Host

end Tendermint
