import Tendermint.Proofs.Url.Domain
import Tendermint.Proofs.Url.Number
import Tendermint.Proofs.Url.Separator

/-!
# Tendermint.Proofs.Url.Ipv4

IPv4 addresses. An address may be given in up to four numbers of three bases; it is written as its
four bytes in decimal, and that reads back as the address.

* `Host.byteAt`, `Host.sum_bytes`: an address and its bytes.
* `Host.ofSpecial_ipv4Text`: an address in its written form.
* `Host.ipv4?_lt`: the addresses that are read.
-/

namespace Tendermint.Host

theorem ipv4Number?_toDigits {n : Nat} (byte : n < 256) :
    ipv4Number? (Nat.toDigits 10 n) = some n := by
  have all : ∀ n < 256, ipv4Number? (Nat.toDigits 10 n) = some n := by decide +kernel
  exact all n byte

/-- The byte of an address at a place. -/
def byteAt (address place : Nat) : Nat := address / Nat.pow 256 place % 256

/-- The labels of an address. -/
def byteLabel (address place : Nat) : List Char := Nat.toDigits 10 (byteAt address place)

theorem ipv4Text_eq (address : Nat) : ipv4Text address =
    byteLabel address 3 ++
      [byteLabel address 2, byteLabel address 1, byteLabel address 0].flatMap ('.' :: ·) := by
  simp [ipv4Text, byteLabel, byteAt]

theorem isDigit_byteLabel (address place : Nat) :
    ∀ c ∈ byteLabel address place, c.isDigit = true :=
  Integer.isDigit_toDigits _

theorem splitOn_ipv4Text (address : Nat) : Url.splitOn '.' (ipv4Text address) =
    [byteLabel address 3, byteLabel address 2, byteLabel address 1, byteLabel address 0] := by
  rw [ipv4Text_eq, Url.splitOn_flatMap]
  intro label inside point
  have digit : ('.' : Char).isDigit = true := by
    simp only [List.mem_cons, List.not_mem_nil, or_false] at inside
    obtain rfl | rfl | rfl | rfl := inside <;> exact isDigit_byteLabel _ _ _ point
  cases digit

theorem endsInNumber_ipv4Text (address : Nat) : endsInNumber (ipv4Text address) = true := by
  have some : byteLabel address 0 ≠ [] := Nat.toDigits_ne_nil
  obtain ⟨c, rest, label⟩ := List.exists_cons_of_ne_nil some
  have digits : (byteLabel address 0).all (fun c => '0' ≤ c && c ≤ '9') = true := by
    rw [List.all_eq_true]
    intro c hc
    simpa using Integer.bounds_of_isDigit (isDigit_byteLabel address 0 c hc)
  rw [label] at digits
  simp [endsInNumber, splitOn_ipv4Text, withoutFinalEmpty, label, digits]

/-- An address is the sum of its bytes. -/
theorem sum_bytes {address : Nat} (small : address < Nat.pow 256 4) :
    ((byteAt address 3 * 256 + byteAt address 2) * 256 + byteAt address 1) * 256 +
      byteAt address 0 = address := by
  have first : Nat.pow 256 0 = 1 := rfl
  have second : Nat.pow 256 1 = 256 := rfl
  have third : Nat.pow 256 2 = 65536 := rfl
  have fourth : Nat.pow 256 3 = 16777216 := rfl
  have all : Nat.pow 256 4 = 4294967296 := rfl
  simp only [byteAt, first, second, third, fourth, all] at small ⊢
  omega

theorem ipv4OfNumbers_bytes {address : Nat} (small : address < Nat.pow 256 4) :
    ipv4OfNumbers [byteAt address 3, byteAt address 2, byteAt address 1, byteAt address 0] =
      some address := by
  have byte (place : Nat) : byteAt address place < 256 := Nat.mod_lt _ (by decide)
  have whole : Nat.pow 256 (4 - 3) = 256 := rfl
  have fits : ¬ (3 < 3 ∨
      [byteAt address 1, byteAt address 2, byteAt address 3].any (255 < ·) = true ∨
      Nat.pow 256 (4 - 3) ≤ byteAt address 0) := by
    have := byte 0
    have := byte 1
    have := byte 2
    have := byte 3
    rw [whole]
    simp only [List.any_cons, List.any_nil, Bool.or_false, Bool.or_eq_true, decide_eq_true_eq]
    omega
  refine (if_neg fits).trans (congrArg some ?_)
  dsimp only [List.length_cons, List.length_nil]
  rw [whole]
  simpa using sum_bytes small

theorem ipv4?_ipv4Text {address : Nat} (small : address < Nat.pow 256 4) :
    ipv4? (ipv4Text address) = some address := by
  have read (place : Nat) : ipv4Number? (byteLabel address place) = some (byteAt address place) :=
    ipv4Number?_toDigits (Nat.mod_lt _ (by decide))
  have filled : Nat.toDigits 10 (byteAt address 0) ≠ [] := Nat.toDigits_ne_nil
  obtain ⟨c, rest, label⟩ := List.exists_cons_of_ne_nil filled
  have labels : withoutFinalEmpty (Url.splitOn '.' (ipv4Text address)) =
      [byteLabel address 3, byteLabel address 2, byteLabel address 1, byteLabel address 0] := by
    simp [splitOn_ipv4Text, withoutFinalEmpty, byteLabel, label]
  have numbers : [byteLabel address 3, byteLabel address 2, byteLabel address 1,
      byteLabel address 0].mapM ipv4Number? =
      some [byteAt address 3, byteAt address 2, byteAt address 1, byteAt address 0] := by
    simp [read]
  rw [ipv4?, labels, numbers, Option.bind_some, ipv4OfNumbers_bytes small]

/-- Labels of digits are as they should be. -/
theorem areValid_digits {labels : List (List Char)}
    (digits : ∀ label ∈ labels, ∀ c ∈ label, c.isDigit = true) :
    Url.Label.areValid labels = true := by
  have points : labels.mapM Url.Label.points? = some (labels.map (·.map Char.toNat)) := by
    induction labels with
    | nil => rfl
    | cons label labels ih =>
      obtain ⟨here, others⟩ := List.forall_mem_cons.1 digits
      have plain : Url.Label.encodedMark.isPrefixOf label = false := by
        cases label with
        | nil => rfl
        | cons c rest =>
          have other : 'x' ≠ c := by
            rintro rfl
            exact absurd (here 'x' List.mem_cons_self) (by decide)
          simp [Url.Label.encodedMark, List.isPrefixOf, other]
      simp [Url.Label.points?, plain, ih others]
  have leftward : ∀ point, 48 ≤ point ∧ point ≤ 57 → Unicode.isRightward point = false := by
    have all : ∀ k < 10, Unicode.isRightward (48 + k) = false := by decide +kernel
    intro point inside
    rw [← Nat.add_sub_of_le inside.1]
    exact all (point - 48) (by omega)
  rw [Url.Label.areValid, points]
  simp only [Url.Label.keepDirections, Bool.or_eq_true, Bool.not_eq_true']
  left
  simp only [List.any_eq_false, List.mem_map]
  rintro _ ⟨label, member, rfl⟩
  simp only [Bool.not_eq_true, List.any_eq_false, List.mem_map]
  rintro _ ⟨c, inside, rfl⟩
  simpa using leftward c.toNat (Integer.toNat_of_isDigit (digits label member c inside))

theorem mem_ipv4Text {address : Nat} {c : Char} (h : c ∈ ipv4Text address) :
    c.isDigit = true ∨ c = '.' := by
  rw [ipv4Text_eq] at h
  simp only [List.flatMap_cons, List.flatMap_nil, List.append_nil, List.mem_append,
    List.mem_cons] at h
  obtain h | (rfl | h) | (rfl | h) | rfl | h := h
  · exact .inl (isDigit_byteLabel address 3 c h)
  · exact .inr rfl
  · exact .inl (isDigit_byteLabel address 2 c h)
  · exact .inr rfl
  · exact .inl (isDigit_byteLabel address 1 c h)
  · exact .inr rfl
  · exact .inl (isDigit_byteLabel address 0 c h)

theorem ofAscii?_ipv4Text (address : Nat) :
    Url.Domain.ofAscii? (ipv4Text address) = some (ipv4Text address) := by
  have plain (c : Char) (h : c ∈ ipv4Text address) :
      c.toLower = c ∧ Url.Domain.isForbidden c = false := by
    obtain digit | rfl := mem_ipv4Text h
    · have all : ∀ k < 10, (Char.ofNat (48 + k)).toLower = Char.ofNat (48 + k) ∧
          Url.Domain.isForbidden (Char.ofNat (48 + k)) = false := by decide
      obtain ⟨low, high⟩ := Integer.toNat_of_isDigit digit
      have here := all (c.toNat - 48) (by omega)
      rwa [Nat.add_sub_of_le low, Char.ofNat_toNat] at here
    · decide
  refine Url.Domain.ofAscii?_eq_some.2 ⟨?_, fun c h => (plain c h).2, ?_⟩
  · exact Text.map_eq_self fun c h => (plain c h).1
  · rw [splitOn_ipv4Text]
    refine areValid_digits ?_
    simp only [List.forall_mem_cons]
    exact ⟨isDigit_byteLabel _ _, isDigit_byteLabel _ _, isDigit_byteLabel _ _,
      isDigit_byteLabel _ _, nofun⟩

theorem ipv4Text_ne_nil (address : Nat) : ipv4Text address ≠ [] := by
  simp [ipv4Text_eq]

/-- An address of four bytes reads back from its text. -/
theorem ofSpecial_ipv4Text {address : Nat} (small : address < Nat.pow 256 4) :
    ofSpecial (ipv4Text address) = .ok (.ipv4 address) := by
  rw [ofSpecial_of_ofAscii? (ofAscii?_ipv4Text address) (ipv4Text_ne_nil address),
    if_pos (endsInNumber_ipv4Text address), ipv4?_ipv4Text small]

theorem foldl_lt {numbers : List Nat} (bytes : ∀ n ∈ numbers, n ≤ 255) (start : Nat) :
    numbers.foldl (fun sum n => sum * 256 + n) start <
      (start + 1) * Nat.pow 256 numbers.length := by
  induction numbers generalizing start with
  | nil => simp
  | cons n rest ih =>
    obtain ⟨here, others⟩ := List.forall_mem_cons.1 bytes
    have step : (start * 256 + n + 1) * Nat.pow 256 rest.length ≤
        (start + 1) * Nat.pow 256 (rest.length + 1) := by
      have power : Nat.pow 256 (rest.length + 1) = 256 * Nat.pow 256 rest.length := Nat.mul_comm ..
      rw [power, ← Nat.mul_assoc]
      exact Nat.mul_le_mul_right _ (by omega)
    exact Nat.lt_of_lt_of_le (ih others _) step

/-- No address that is read has more than four bytes. -/
theorem ipv4?_lt {name : List Char} {address : Nat} (read : ipv4? name = some address) :
    address < Nat.pow 256 4 := by
  obtain ⟨numbers, -, read⟩ := Option.bind_eq_some_iff.1 read
  unfold ipv4OfNumbers at read
  split at read
  · cases read
  · next last front reversed =>
    simp only [Option.ite_none_left_eq_some, not_or, Nat.not_lt, Nat.not_le, Option.some.injEq,
      Bool.not_eq_true, List.any_eq_false, decide_eq_true_eq] at read
    obtain ⟨⟨few, bytes, fits⟩, rfl⟩ := read
    have sum : front.reverse.foldl (fun sum n => sum * 256 + n) 0 < Nat.pow 256 front.length := by
      simpa using foldl_lt (by simpa using bytes : ∀ n ∈ front.reverse, n ≤ 255) 0
    have product : Nat.pow 256 front.length * Nat.pow 256 (4 - front.length) = Nat.pow 256 4 := by
      have power := Nat.pow_add 256 front.length (4 - front.length)
      rw [Nat.add_sub_of_le (Nat.le_succ_of_le few)] at power
      exact power.symm
    have room := Nat.mul_le_mul_right (Nat.pow 256 (4 - front.length)) (Nat.succ_le_of_lt sum)
    rw [product, Nat.succ_mul] at room
    omega

end Tendermint.Host
