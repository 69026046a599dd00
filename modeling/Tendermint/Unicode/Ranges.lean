/-!
# Tendermint.Unicode.Ranges

Classes of code points as tables: ranges with both ends, in ascending order, with or without a
value that all of a range share.

* `Ranges.holds`: whether a code point is in a class.
* `RangeMap.get?`: the value of a code point.
* `RangeMap.shifted?`: the code point that another becomes.
-/

namespace Tendermint.Unicode

/-- A class of code points. -/
abbrev Ranges := List (Nat × Nat)

/-- Values of code points. -/
abbrev RangeMap (α : Type) := List (Nat × Nat × α)

def Ranges.holds (ranges : Ranges) (point : Nat) : Bool :=
  ranges.any fun (first, last) => first ≤ point && point ≤ last

/-- Whether a code point is one of every other one of a range, from the first one on. -/
def Ranges.alternates (ranges : Ranges) (point : Nat) : Bool :=
  ranges.any fun (first, last) => first ≤ point && point ≤ last && (point - first) % 2 == 0

def RangeMap.get? {α : Type} (table : RangeMap α) (point : Nat) : Option α :=
  (table.find? fun (first, last, _) => first ≤ point && point ≤ last).map fun (_, _, value) => value

/-- The code point that another becomes, in ranges of every `step`-th code point that all move as
far as the first one, to its value. -/
def RangeMap.shifted? (table : RangeMap Nat) (step point : Nat) : Option Nat :=
  (table.find? fun (first, last, _) =>
    first ≤ point && point ≤ last && (point - first) % step == 0).map
    fun (first, _, value) => value + (point - first)

end Tendermint.Unicode
