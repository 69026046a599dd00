import Tendermint.Proofs.Text.Forms
import Tendermint.Proofs.Url.Percent
import Tendermint.Url.Host

/-!
# Tendermint.Proofs.Url.Domain

Domain names are in their normal form once they are read. A name that was read is in ASCII and in
lower case, so reading it again finds the same name; what its code points were before makes no
difference any more.

* `Domain.ofAscii?_eq_some`: the names in ASCII.
* `Domain.ofAscii?_of_ofBytes?`: a name that was read is one of them.
* `Host.ofSpecial_of_ofAscii?`: the host that stands as a name.
-/

namespace Tendermint.Url.Domain

variable {text name : List Char} {c : Char}

theorem of_not_isForbidden (h : isForbidden c = false) :
    33 ≤ c.toNat ∧ c.toNat < 127 ∧
      c ∉ ['#', '%', '/', ':', '<', '>', '?', '@', '[', '\\', ']', '^', '|'] := by
  simp only [isForbidden, Bool.or_eq_false_iff, decide_eq_false_iff_not, Nat.not_le] at h
  obtain ⟨⟨low, high⟩, outside⟩ := h
  exact ⟨low, high, outside⟩

theorem ofAscii?_eq_some : ofAscii? text = some name ↔
    text.map Char.toLower = name ∧ (∀ c ∈ name, isForbidden c = false) ∧
      Label.areValid (splitOn '.' name) = true := by
  simp only [ofAscii?]
  split
  · next bad =>
    simp only [Bool.or_eq_true, List.any_eq_true, Bool.not_eq_true'] at bad
    constructor
    · nofun
    · rintro ⟨rfl, fine, valid⟩
      obtain ⟨c, inside, forbidden⟩ | invalid := bad
      · rw [fine c inside] at forbidden
        cases forbidden
      · rw [valid] at invalid
        cases invalid
  · next good =>
    simp only [Bool.or_eq_true, List.any_eq_true, Bool.not_eq_true', not_or, not_exists, not_and,
      Bool.not_eq_true, Bool.not_eq_false] at good
    constructor
    · rintro ⟨⟩
      exact ⟨rfl, good⟩
    · rintro ⟨rfl, -⟩
      rfl

theorem ofAscii?_self (read : ofAscii? text = some name) : ofAscii? name = some name := by
  obtain ⟨rfl, fine, valid⟩ := ofAscii?_eq_some.1 read
  refine ofAscii?_eq_some.2 ⟨?_, fine, valid⟩
  rw [List.map_map]
  exact List.map_congr_left fun c _ => Text.toLower_toLower c

theorem ofAscii?_of_ofBytes? {bytes : Bytes} (read : ofBytes? bytes = some name) :
    ofAscii? name = some name := by
  rw [ofBytes?] at read
  split at read
  · exact ofAscii?_self read
  · obtain ⟨text, -, read⟩ := Option.bind_eq_some_iff.1 read
    exact ofAscii?_self read

/-- The bytes of a name in ASCII stand for it. -/
theorem ofBytes?_of_ofAscii? (read : ofAscii? name = some name) :
    ofBytes? (decode (name.flatMap String.utf8EncodeChar)) = some name := by
  obtain ⟨-, fine, -⟩ := ofAscii?_eq_some.1 read
  have small : ∀ c ∈ name, c.toNat < 128 := by
    intro c hc
    have := of_not_isForbidden (fine c hc)
    omega
  have bytes : name.flatMap String.utf8EncodeChar = name.map Text.asciiByte := by
    simpa [Text.bytes] using Text.bytes_ofList small
  have value : ∀ c ∈ name, (Text.asciiByte c).toNat = c.toNat := by
    intro c hc
    have := small c hc
    exact UInt8.toNat_ofNat_of_lt' (by simp only [UInt8.size]; omega)
  have plain : 37 ∉ name.map Text.asciiByte := by
    intro percent
    obtain ⟨c, hc, same⟩ := List.mem_map.1 percent
    have code : c.toNat = 37 := (value c hc).symm.trans (congrArg UInt8.toNat same)
    have sign : c = '%' := Char.toNat_inj.1 code
    exact (of_not_isForbidden (fine c hc)).2.2 (by simp [sign])
  rw [bytes, decode_of_not_mem plain, ofBytes?, if_pos, List.map_map]
  · have same : name.map ((fun b => Char.ofNat b.toNat) ∘ Text.asciiByte) = name := by
      refine Text.map_eq_self fun c hc => ?_
      rw [Function.comp_apply, value c hc, Char.ofNat_toNat]
    rw [same, read]
  · rw [List.all_eq_true]
    intro b hb
    obtain ⟨c, hc, rfl⟩ := List.mem_map.1 hb
    rw [decide_eq_true_eq, UInt8.lt_iff_toNat_lt, value c hc]
    exact small c hc

end Tendermint.Url.Domain

namespace Tendermint.Host

open Url (Domain.ofAscii?)

variable {name : List Char}

/-- A name in ASCII is the host that it names: an address if it ends in a number. -/
theorem ofSpecial_of_ofAscii? (read : Domain.ofAscii? name = some name) (some : name ≠ []) :
    ofSpecial name =
      if endsInNumber name then
        match ipv4? name with
        | .some address => .ok (.ipv4 address)
        | none => .error .invalidIpv4
      else .ok (.domain name) := by
  obtain ⟨-, fine, -⟩ := Url.Domain.ofAscii?_eq_some.1 read
  obtain ⟨c, rest, rfl⟩ := List.exists_cons_of_ne_nil some
  have bracket : c ≠ '[' := by
    rintro rfl
    exact (Url.Domain.of_not_isForbidden (fine _ List.mem_cons_self)).2.2 (by decide)
  rw [ofSpecial]
  · rewrite [Url.Domain.ofBytes?_of_ofAscii? read]
    rfl
  · rintro rest' same
    exact bracket (List.cons.inj same).1

end Tendermint.Host
