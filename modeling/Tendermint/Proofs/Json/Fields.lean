import Tendermint.Json.Basic

/-!
# Tendermint.Proofs.Json.Fields

Objects written field by field, and the members that are found in them. An absent field is left
out; of two fields with one key the first counts.

* `Json.ofFields`: the object.
* `Json.get?_ofFields_cons`: the value of a member.
-/

namespace Tendermint

namespace Json

theorem Members.lookup_insert (key k : String) (value : Json) (members : Members) :
    (members.insert k value).lookup key = if k = key then some value else members.lookup key := by
  induction members with
  | nil => rfl
  | cons entry rest ih =>
    obtain ⟨l, v⟩ := entry
    by_cases same : k = l
    · subst same
      simp only [Members.insert, if_true, Members.lookup]
      split <;> rfl
    · by_cases before : k < l
      · simp only [Members.insert, if_neg same, if_pos before, Members.lookup]
      · simp only [Members.insert, if_neg same, if_neg before, Members.lookup, ih]
        grind

/-- The members that fields make up; an absent field is left out. -/
def Members.ofFields : List (String × Option Json) → Members
  | [] => []
  | (_, none) :: rest => ofFields rest
  | (key, some value) :: rest => (ofFields rest).insert key value

def ofFields (fields : List (String × Option Json)) : Json := .object (Members.ofFields fields)

/-- A value that is not `null`. -/
def unlessNull : Json → Option Json
  | .null => none
  | value => some value

theorem unlessNull_of_ne {value : Json} (h : value ≠ .null) : unlessNull value = some value := by
  cases value with
  | null => exact absurd rfl h
  | _ => rfl

theorem eq_of_unlessNull {value shown : Json} (h : unlessNull value = some shown) :
    value = shown := by
  cases value <;> cases h <;> rfl

theorem get?_eq (value : Json) (key : String) :
    value.get? key = (value.member? key).bind unlessNull := by
  rw [get?]
  cases value.member? key with
  | none => rfl
  | some found => cases found <;> rfl

/-- What is found of a field: its value, or what the fields after it hold if it is absent. -/
def pick (found later : Option Json) : Option Json :=
  match found with
  | none => later
  | some value => unlessNull value

@[simp] theorem pick_none (later : Option Json) : pick none later = later := rfl

@[simp] theorem pick_some (value : Json) (later : Option Json) :
    pick (some value) later = unlessNull value := rfl

theorem pick_map {α : Type} {write : α → Json} (h : ∀ a, unlessNull (write a) = some (write a))
    (found : Option α) : pick (found.map write) none = found.map write := by
  cases found with
  | none => rfl
  | some a => exact h a

section Fields

variable (key k : String) (found : Option Json) (rest : List (String × Option Json))

@[simp] theorem get?_ofFields_nil : (ofFields []).get? key = none := rfl

/-- Of two fields with one key the first counts, unless it is absent. -/
@[simp] theorem get?_ofFields_cons :
    (ofFields ((k, found) :: rest)).get? key =
      if k = key then pick found ((ofFields rest).get? key) else (ofFields rest).get? key := by
  cases found with
  | none => exact (ite_self _).symm
  | some value =>
    rw [get?_eq, get?_eq]
    simp only [member?, ofFields, members, Members.ofFields, Members.lookup_insert]
    split <;> rfl

end Fields

@[simp] theorem unlessNull_string (text : String) :
    unlessNull (.string text) = some (.string text) := rfl

@[simp] theorem unlessNull_bool (b : Bool) : unlessNull (.bool b) = some (.bool b) := rfl

@[simp] theorem unlessNull_array (items : List Json) :
    unlessNull (.array items) = some (.array items) := rfl

@[simp] theorem unlessNull_ofFields (fields : List (String × Option Json)) :
    unlessNull (ofFields fields) = some (ofFields fields) := rfl

end Json

end Tendermint
