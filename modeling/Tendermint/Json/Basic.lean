import Tendermint.Number.Shortest

/-!
# Tendermint.Json.Basic

JSON values as the node's messages hold them. An object is a list of members with distinct
keys in code point order; `Members.insert` keeps it so, and the later of two values wins.

* `Number`: an integer where the text is one that fits 64 bits, otherwise a binary64 number.
* `Json.get?`: the value of a member, where `null` counts as absent.
-/

namespace Tendermint

/-- A JSON number. Integers are those of 64 bits, signed or unsigned; all else is binary64. -/
inductive Number where
  | integer (value : Int)
  | real (value : Binary64)
  deriving DecidableEq, Repr

/-- A JSON value. -/
inductive Json where
  | null
  | bool (value : Bool)
  | number (value : Number)
  | string (text : String)
  | array (items : List Json)
  | object (members : List (String × Json))
  deriving Repr, Inhabited

namespace Json

/-- The members of an object. -/
abbrev Members := List (String × Json)

/-- Puts a member at its place in key order and replaces one with the same key. -/
def Members.insert (key : String) (value : Json) : Members → Members
  | [] => [(key, value)]
  | (k, v) :: rest =>
    if key = k then (key, value) :: rest
    else if key < k then (key, value) :: (k, v) :: rest
    else (k, v) :: Members.insert key value rest

/-- Members in key order; of two with one key the later counts. -/
def Members.ofList (entries : List (String × Json)) : Members :=
  entries.foldl (fun members entry => members.insert entry.1 entry.2) []

/-- Keys in strictly increasing order, which makes them distinct. -/
def Members.Sorted (members : Members) : Prop :=
  (members.map Prod.fst).Pairwise (· < ·)

/-- The value stored under a key, `null` included. -/
def Members.lookup (key : String) : Members → Option Json
  | [] => none
  | (k, v) :: rest => if k = key then some v else Members.lookup key rest

def isNull : Json → Bool
  | .null => true
  | _ => false

/-- The members of an object; any other value has none. -/
def members : Json → Members
  | .object members => members
  | _ => []

/-- The stored value of a member, `null` included. -/
def member? (value : Json) (key : String) : Option Json := value.members.lookup key

/-- The value of a member. A `null` counts as absent, and so does any member of a value that
is not an object. -/
def get? (value : Json) (key : String) : Option Json :=
  match value.member? key with
  | none => none
  | some .null => none
  | some v => some v

/-- An object from its members in any order. -/
def ofMembers (entries : List (String × Json)) : Json := .object (Members.ofList entries)

mutual

/-- Structural equality, decided. -/
def same : Json → Json → Bool
  | .null, .null => true
  | .bool x, .bool y => x == y
  | .number x, .number y => x == y
  | .string x, .string y => x == y
  | .array x, .array y => sameItems x y
  | .object x, .object y => sameMembers x y
  | _, _ => false

def sameItems : List Json → List Json → Bool
  | [], [] => true
  | x :: xs, y :: ys => same x y && sameItems xs ys
  | _, _ => false

def sameMembers : List (String × Json) → List (String × Json) → Bool
  | [], [] => true
  | (k, x) :: xs, (l, y) :: ys => k == l && same x y && sameMembers xs ys
  | _, _ => false

end

mutual

theorem same_iff (x y : Json) : same x y = true ↔ x = y := by
  cases x <;> cases y <;> simp [same]
  · exact sameItems_iff _ _
  · exact sameMembers_iff _ _

theorem sameItems_iff (xs ys : List Json) : sameItems xs ys = true ↔ xs = ys := by
  cases xs with
  | nil => cases ys <;> simp [sameItems]
  | cons x xs =>
    cases ys with
    | nil => simp [sameItems]
    | cons y ys => simp [sameItems, same_iff x y, sameItems_iff xs ys]

theorem sameMembers_iff (xs ys : List (String × Json)) :
    sameMembers xs ys = true ↔ xs = ys := by
  cases xs with
  | nil => cases ys <;> simp [sameMembers]
  | cons x xs =>
    obtain ⟨k, v⟩ := x
    cases ys with
    | nil => simp [sameMembers]
    | cons y ys =>
      obtain ⟨l, w⟩ := y
      simp [sameMembers, same_iff v w, sameMembers_iff xs ys]

end

instance : DecidableEq Json := fun x y => decidable_of_iff _ (same_iff x y)

def nat (n : Nat) : Json := .number (.integer n)

def int (n : Int) : Json := .number (.integer n)

end Json

end Tendermint
