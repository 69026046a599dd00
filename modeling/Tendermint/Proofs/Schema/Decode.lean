import Mathlib.Data.List.Forall2
import Tendermint.Schema.Basic
import Tendermint.Proofs.Json.Fields
import Tendermint.Proofs.Text.RoundTrip

/-!
# Tendermint.Proofs.Schema.Decode

What a schema reads, said once for each way in which schemas are built and for each kind of leaf.
A reading of a whole answer is computed with these lemmas, and no proof about an answer looks into
`Schema.decode`.
-/

namespace Tendermint

/-- A value stands for an integer: as a JSON integer or as decimal text. -/
def Json.Denotes (value : Json) (n : Int) : Prop :=
  value = .number (.integer n) ∨ ∃ text, value = .string text ∧ Integer.ofText text = .ok n

namespace Leaf

variable (name : String)

theorem readInteger_toString {n : Int} (low : Integer.least ≤ n) (high : n ≤ Integer.greatest) :
    readInteger name (.string (toString n)) = .ok n := by
  simp only [readInteger, Integer.ofText_toString low high]

/-- A natural number of 64 bits is within the range of the texts of integers. -/
theorem readNat_toString {bound n : Nat} (fits : bound ≤ UInt64.size) (h : n < bound) :
    readNat bound name (.string (toString (n : Int))) = .ok n := by
  have low : Integer.least ≤ (n : Int) := Int.le_trans (by decide) (Int.natCast_nonneg n)
  have high : (n : Int) ≤ Integer.greatest :=
    Int.le_trans (Int.ofNat_le.2 (Nat.le_trans (Nat.le_of_lt h) fits)) (by decide)
  have inside : 0 ≤ (n : Int) ∧ (n : Int) < bound := by omega
  simp only [readNat, readInteger_toString name low high, if_pos inside, Int.toNat_natCast]

theorem readInteger_eq_ok {name : String} {value : Json} {n : Int} :
    readInteger name value = .ok n ↔ value.Denotes n := by
  rw [Json.Denotes]
  cases value with
  | string text =>
    cases read : Integer.ofText text <;> simp [readInteger, read]
  | number number => cases number <;> simp [readInteger]
  | _ => simp [readInteger]

theorem readU32_eq_zero {name : String} {value : Json} :
    readU32 name value = .ok 0 ↔ value.Denotes 0 := by
  rw [← @readInteger_eq_ok name, readU32, readNat]
  cases readInteger name value with
  | error e => simp [Except.map]
  | ok n =>
    by_cases inside : 0 ≤ n ∧ n < UInt32.size
    · simp only [if_pos inside, Except.map, Except.ok.injEq]
      have small : n.toNat < UInt32.size := by omega
      rw [← UInt32.toNat_inj, UInt32.toNat_ofNat_of_lt' small, UInt32.toNat_zero]
      omega
    · have other : n ≠ 0 := by
        rintro rfl
        exact inside (by decide)
      simp only [if_neg inside, Except.map, Except.ok.injEq, other, reduceCtorEq]

end Leaf

namespace Schema

attribute [grind =] firstPresent eachItem gapOr decode

variable {α β : Type} {name field : String} {value : Json}

@[simp] theorem decode_leaf (kind : Leaf α) :
    (Schema.leaf kind).decode name value = kind.read name value := by
  rw [decode]

@[simp] theorem decode_map (f : α → β) (x : Schema α) :
    (f <$> x).decode name value =
      match x.decode name value with
      | .error e => .error e
      | .ok a => .ok (f a) := by
  change (Schema.ap (.const f) x).decode name value = _
  cases read : x.decode name value <;> simp only [decode, read]

@[simp] theorem decode_seq (f : Schema (α → β)) (x : Schema α) :
    (f <*> x).decode name value =
      match f.decode name value with
      | .error e => .error e
      | .ok g =>
        match x.decode name value with
        | .error e => .error e
        | .ok a => .ok (g a) := by
  change (Schema.ap f x).decode name value = _
  cases readFunction : f.decode name value with
  | error e => simp only [decode, readFunction]
  | ok g => cases read : x.decode name value <;> simp only [decode, readFunction, read]

@[simp] theorem decode_seqRight (x : Schema α) (y : Schema β) :
    (x *> y).decode name value =
      match x.decode name value with
      | .error e => .error e
      | .ok _ => y.decode name value := by
  change (Schema.ap (.ap (.const fun _ b => b) x) y).decode name value = _
  cases read : x.decode name value with
  | error e => simp only [decode, read]
  | ok a => cases readNext : y.decode name value <;> simp only [decode, read, readNext]

theorem decode_map_eq_ok {f : α → β} {x : Schema α} {b : β} :
    (f <$> x).decode name value = .ok b ↔ ∃ a, x.decode name value = .ok a ∧ f a = b := by
  rw [decode_map]
  cases x.decode name value <;> simp

theorem decode_seq_eq_ok {f : Schema (α → β)} {x : Schema α} {b : β} :
    (f <*> x).decode name value = .ok b ↔
      ∃ g, f.decode name value = .ok g ∧ ∃ a, x.decode name value = .ok a ∧ g a = b := by
  rw [decode_seq]
  cases f.decode name value with
  | error e => simp
  | ok g => cases x.decode name value <;> simp

@[simp] theorem decode_required (inner : Schema α) :
    (required field inner).decode name value =
      match value.get? field with
      | none => .error (.missingField field)
      | some found => inner.decode field found := by
  simp only [required, decode, firstPresent]
  cases value.get? field <;> rfl

theorem decode_required_eq_ok {inner : Schema α} {a : α} :
    (required field inner).decode name value = .ok a ↔
      ∃ found, value.get? field = some found ∧ inner.decode field found = .ok a := by
  rw [decode_required]
  cases value.get? field <;> simp

@[simp] theorem decode_present (field : String) :
    (present field).decode name value =
      if (value.get? field).isSome then .ok () else .error (.missingField field) := by
  rw [present, decode_required]
  cases value.get? field <;> rfl

@[simp] theorem decode_field (kind : Leaf α) :
    (Schema.field field kind).decode name value =
      match value.get? field with
      | none => .error (.missingField field)
      | some found => kind.read field found := by
  rw [Schema.field, decode_required]
  rfl

@[simp] theorem decode_orElse (first : Schema (Option α)) (second : Schema α) :
    (Schema.orElse first second).decode name value =
      match first.decode name value with
      | .error e => .error e
      | .ok (some a) => .ok a
      | .ok none => second.decode name value := by
  cases read : first.decode name value with
  | error e => simp only [decode, read]
  | ok found => cases found <;> simp only [decode, read]

@[simp] theorem decode_textOrObject_ofFields (text object : Schema α)
    (fields : List (String × Option Json)) :
    (textOrObject text object).decode name (.ofFields fields) =
      object.decode name (.ofFields fields) := by
  rw [Json.ofFields, decode]

/-- What is read of a member that may be absent. -/
def optionally (read : Json → Except DecodeError α) : Option Json → Except DecodeError (Option α)
  | none => .ok none
  | some found => (read found).map some

@[simp] theorem decode_optional (inner : Schema α) :
    (Schema.optional field inner).decode name value =
      optionally (inner.decode field) (value.get? field) := by
  rw [decode]
  cases value.get? field <;> rfl

@[simp] theorem optionally_none (read : Json → Except DecodeError α) :
    optionally read none = .ok none := rfl

@[simp] theorem optionally_some (read : Json → Except DecodeError α) (found : Json) :
    optionally read (some found) =
      match read found with
      | .error e => .error e
      | .ok a => .ok (some a) := by
  rw [optionally]
  cases read found <;> rfl

@[simp] theorem decode_optionalField (kind : Leaf α) :
    (optionalField field kind).decode name value =
      optionally (kind.read field) (value.get? field) := by
  rw [optionalField, decode_optional]
  rfl

/-- A member that is written only where there is something to write. -/
theorem decode_optional_of_pick {inner : Schema α} {write : α → Json} {o : Option α}
    (found : value.get? field = Json.pick (o.map write) none)
    (shown : ∀ a, Json.unlessNull (write a) = some (write a))
    (back : ∀ a ∈ o, inner.decode field (write a) = .ok a) :
    (Schema.optional field inner).decode name value = .ok o := by
  rw [decode_optional, found, Json.pick_map shown]
  cases o with
  | none => rfl
  | some a =>
    simp only [Option.map_some, optionally, back a rfl]
    rfl

theorem eachItem_eq_ok {read : Json → Except DecodeError α} {values : List Json} {l : List α} :
    eachItem read values = .ok l ↔ List.Forall₂ (fun a v => read v = .ok a) l values := by
  induction values generalizing l with
  | nil => simp [eachItem, eq_comm]
  | cons v rest ih =>
    rw [List.forall₂_cons_right_iff]
    cases first : read v with
    | error e => simp [eachItem, first]
    | ok a =>
      cases others : eachItem read rest with
      | error e => simp [eachItem, first, others, ← ih]
      | ok more => simp [eachItem, first, others, ← ih, eq_comm]

theorem decode_items {item : Schema α} {write : α → Json} {l : List α}
    (h : ∀ a ∈ l, item.decode name (write a) = .ok a) :
    (Schema.items item).decode name (.array (l.map write)) = .ok l :=
  eachItem_eq_ok.2 (List.forall₂_map_right_iff.2 (List.forall₂_same.2 h))

theorem gapOr_eq (read : Json → Except DecodeError α) (value : Json) :
    gapOr read value = optionally read (Json.unlessNull value) := by
  cases value <;> rfl

theorem gapOr_of_unlessNull {read : Json → Except DecodeError α}
    (h : Json.unlessNull value = some value) : gapOr read value = (read value).map some := by
  rw [gapOr_eq, h, optionally]

end Schema

end Tendermint
