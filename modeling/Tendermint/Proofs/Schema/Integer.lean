import Tendermint.Proofs.Schema.Decode
import Tendermint.Proofs.Text.Forms

/-!
# Tendermint.Proofs.Schema.Integer

Integer fields are exact. A value spells an integer as a JSON integer or as a text with a numeral;
the numeral may have as many digits as it likes, while the reader counts inside 128 bits. As all
the types of fields lie within that range, nothing of it shows in what they read.

* `Json.Spells`: the spellings of an integer.
* `Leaf.read_eq_ok_iff`: an integer field reads the spellings of the integers of its type.
* `Leaf.read_of_spells`: which of its spellings an integer has makes no difference.
* `integers_are_read_exactly`.
-/

namespace Tendermint

/-- A value that spells an integer: a JSON integer, or a text with sign, leading zeros and white
space as may be. -/
def Json.Spells (value : Json) (n : Int) : Prop :=
  value = .number (.integer n) ∨ ∃ text, value = .string text ∧ Integer.Spelling text n

namespace Json

variable {value : Json} {n m : Int}

/-- Within the range of the reader a value stands for the integer that it spells. -/
theorem denotes_iff_spells (low : Integer.least ≤ n) (high : n ≤ Integer.greatest) :
    value.Denotes n ↔ value.Spells n := by
  simp only [Denotes, Spells, Integer.ofText_eq_ok_iff, low, high, and_true]

theorem eq_of_spells (spells : value.Spells n) (denoted : value.Denotes m) : m = n := by
  obtain rfl | ⟨text, rfl, spelling⟩ := spells
  · obtain same | ⟨text, same, -⟩ := denoted
    · cases same
      rfl
    · cases same
  · obtain same | ⟨other, same, read⟩ := denoted
    · cases same
    · cases same
      exact Integer.eq_of_spelling spelling read

end Json

namespace Leaf

variable {α : Type} {kind : Leaf α} {name : String} {v old new : Json} {a : α}

/-- A leaf that holds an integer. -/
def isInteger {α : Type} : Leaf α → Bool
  | .u32 | .u64 | .i64 => true
  | _ => false

/-- What an integer means to a leaf, within the range of the leaf. -/
def ofInteger? {α : Type} : Leaf α → Int → Option α
  | .u32, n => if 0 ≤ n ∧ n < UInt32.size then some (UInt32.ofNat n.toNat) else none
  | .u64, n => if 0 ≤ n ∧ n < UInt64.size then some (UInt64.ofNat n.toNat) else none
  | .i64, n =>
    if Int64.minValue.toInt ≤ n ∧ n ≤ Int64.maxValue.toInt then some (Int64.ofInt n) else none
  | _, _ => none

theorem read_of_isInteger (integer : kind.isInteger = true) :
    kind.read name v =
      match readInteger name v with
      | .error e => .error e
      | .ok n =>
        match kind.ofInteger? n with
        | none => .error (outOfRange name n)
        | some a => .ok a := by
  cases kind with
  | u32 | u64 =>
    simp only [read, readU32, readU64, readNat, ofInteger?]
    cases readInteger name v with
    | error e => rfl
    | ok n =>
      dsimp only
      split <;> rfl
  | i64 =>
    simp only [read, readI64, ofInteger?]
    cases readInteger name v with
    | error e => rfl
    | ok n =>
      dsimp only
      split <;> rfl
  | _ => cases integer

theorem read_eq_ok_of_isInteger (integer : kind.isInteger = true) :
    kind.read name v = .ok a ↔ ∃ n, v.Denotes n ∧ kind.ofInteger? n = some a := by
  rw [read_of_isInteger integer]
  simp only [← @readInteger_eq_ok name]
  cases readInteger name v with
  | error e => simp
  | ok n => cases value : kind.ofInteger? n <;> simp [value]

theorem fits_of_ofInteger? {n : Int} (h : kind.ofInteger? n = some a) :
    Integer.least ≤ n ∧ n ≤ Integer.greatest := by
  have low : Integer.least ≤ Int64.minValue.toInt := by decide
  have high : Int64.maxValue.toInt ≤ Integer.greatest := by decide
  have low' : Integer.least ≤ 0 := by decide
  have high' : (UInt64.size : Int) ≤ Integer.greatest := by decide
  have high'' : (UInt32.size : Int) ≤ Integer.greatest := by decide
  cases kind with
  | u32 | u64 | i64 =>
    rw [ofInteger?] at h
    split at h
    · omega
    · cases h
  | _ => cases h

/-- An integer field reads the spellings of the integers that mean something to it. -/
theorem read_eq_ok_iff (integer : kind.isInteger = true) :
    kind.read name v = .ok a ↔ ∃ n, v.Spells n ∧ kind.ofInteger? n = some a := by
  rw [read_eq_ok_of_isInteger integer]
  refine exists_congr fun n => and_congr_left fun value => ?_
  obtain ⟨low, high⟩ := fits_of_ofInteger? value
  exact Json.denotes_iff_spells low high

theorem read_eq_ok_iff_of_isInteger (integer : kind.isInteger = true) (n m : String) :
    kind.read n v = .ok a ↔ kind.read m v = .ok a := by
  rw [read_eq_ok_of_isInteger integer, read_eq_ok_of_isInteger integer]

theorem read_of_spells {n : Int} (integer : kind.isInteger = true) (before : old.Spells n)
    (after : new.Spells n) (read : kind.read name old = .ok a) : kind.read name new = .ok a := by
  obtain ⟨m, denoted, value⟩ := (read_eq_ok_of_isInteger integer).1 read
  obtain rfl : m = n := Json.eq_of_spells before denoted
  exact (read_eq_ok_iff integer).2 ⟨m, after, value⟩

theorem readInteger_error {e : DecodeError} (h : readInteger name v = .error e) :
    ∃ reason, e = .invalidField name reason := by
  unfold readInteger at h
  split at h
  · split at h <;> cases h
    exact ⟨_, rfl⟩
  · cases h
  · cases h
    exact ⟨_, rfl⟩
  · cases h
    exact ⟨_, rfl⟩

/-- What an integer field does not read is an invalid field. -/
theorem invalid_of_isInteger (integer : kind.isInteger = true)
    (unread : ∀ a, kind.read name v ≠ .ok a) :
    ∃ reason, kind.read name v = .error (.invalidField name reason) := by
  cases read : readInteger name v with
  | error e =>
    obtain ⟨reason, rfl⟩ := readInteger_error read
    exact ⟨reason, by rw [read_of_isInteger integer, read]⟩
  | ok n =>
    cases value : kind.ofInteger? n with
    | none => exact ⟨_, by rw [read_of_isInteger integer, read]; dsimp only; rw [value]; rfl⟩
    | some a =>
      refine absurd ?_ (unread a)
      rw [read_of_isInteger integer, read]
      dsimp only
      rw [value]

/-! ## The types of fields -/

theorem ofInteger?_u32 {n : Int} {a : UInt32} :
    Leaf.u32.ofInteger? n = some a ↔ (a.toNat : Int) = n := by
  have small : a.toNat < UInt32.size := a.toNat_lt
  rw [ofInteger?, Option.ite_none_right_eq_some, Option.some.injEq, ← UInt32.toNat_inj]
  constructor
  · rintro ⟨inside, same⟩
    rw [UInt32.toNat_ofNat_of_lt' (by omega)] at same
    omega
  · rintro rfl
    exact ⟨by omega, by rw [Int.toNat_natCast, UInt32.ofNat_toNat]⟩

theorem ofInteger?_u64 {n : Int} {a : UInt64} :
    Leaf.u64.ofInteger? n = some a ↔ (a.toNat : Int) = n := by
  have small : a.toNat < UInt64.size := a.toNat_lt
  rw [ofInteger?, Option.ite_none_right_eq_some, Option.some.injEq, ← UInt64.toNat_inj]
  constructor
  · rintro ⟨inside, same⟩
    rw [UInt64.toNat_ofNat_of_lt' (by omega)] at same
    omega
  · rintro rfl
    exact ⟨by omega, by rw [Int.toNat_natCast, UInt64.ofNat_toNat]⟩

theorem ofInteger?_i64 {n : Int} {a : Int64} : Leaf.i64.ofInteger? n = some a ↔ a.toInt = n := by
  rw [ofInteger?, Option.ite_none_right_eq_some, Option.some.injEq]
  constructor
  · rintro ⟨⟨low, high⟩, rfl⟩
    exact Int64.toInt_ofInt_of_le low (Int.lt_of_le_of_lt high (by decide))
  · rintro rfl
    exact ⟨⟨a.minValue_le_toInt, a.toInt_le⟩, Int64.ofInt_toInt a⟩

/-- A field takes the values that spell an integer of its type, and each as that integer. Any other
value is an invalid field. -/
def ReadsIntegers (kind : Leaf α) (toInt : α → Int) : Prop :=
  ∀ name value,
    (∀ a, kind.read name value = .ok a ↔ value.Spells (toInt a)) ∧
      ((∀ a, ¬ value.Spells (toInt a)) →
        ∃ reason, kind.read name value = .error (.invalidField name reason))

theorem readsIntegers {toInt : α → Int} (integer : kind.isInteger = true)
    (means : ∀ n a, kind.ofInteger? n = some a ↔ toInt a = n) : kind.ReadsIntegers toInt := by
  intro name value
  have spelled (a : α) : kind.read name value = .ok a ↔ value.Spells (toInt a) := by
    rw [read_eq_ok_iff integer]
    constructor
    · rintro ⟨n, spells, same⟩
      exact (means n a).1 same ▸ spells
    · exact fun spells => ⟨toInt a, spells, (means _ a).2 rfl⟩
  exact ⟨spelled, fun none => invalid_of_isInteger integer fun a read =>
    none a ((spelled a).1 read)⟩

end Leaf

/-- Integer fields are exact. A field of 32 or 64 bits reads an integer of its type precisely from
the values that spell it: from the JSON integer, and from a text that has a sign or none, digits of
which there is at least one, and white space around it as may be. Every other value, an integer out
of range included, is an invalid field under the name of the field. -/
theorem integers_are_read_exactly :
    Leaf.u32.ReadsIntegers (fun n => n.toNat) ∧ Leaf.u64.ReadsIntegers (fun n => n.toNat) ∧
      Leaf.i64.ReadsIntegers Int64.toInt :=
  ⟨Leaf.readsIntegers rfl fun _ _ => Leaf.ofInteger?_u32,
    Leaf.readsIntegers rfl fun _ _ => Leaf.ofInteger?_u64,
    Leaf.readsIntegers rfl fun _ _ => Leaf.ofInteger?_i64⟩

/-- More digits than 128 bits have, of which the leading ones are zero. -/
example : Leaf.i64.read "proposer_priority"
    (.string "\u2003-0000000000000000000000000000000000000000000000000042\n") = .ok (-42) := by
  decide +kernel

end Tendermint
