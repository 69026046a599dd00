import Tendermint.Number.Binary64

/-!
# Tendermint.Number.Shortest

The shortest decimal that reads back as a given binary64 number, and its written form.

A decimal reads back as `x` when it lies in the interval of reals that round to `x`; the ends
belong to it when the significand is even. `shortest` walks down the decimal grids and takes
the first one with a point in the interval. If a grid has a point there, one of the two
neighbours of `x` on that grid is such a point, so only these two are looked at.

* `Binary64.shortest`: digits and power of ten.
* `Layout`: where plain notation ends, and how an exponent is written.
* `Layout.write`: the text.
-/

namespace Tendermint

namespace Binary64

/-- The ends of the interval that rounds to a positive `x`, in quarters of a unit in the last
place: `low / 4` and `high / 4` times `2 ^ exponent`. -/
def quarterBounds (x : Binary64) : Nat × Nat :=
  let low :=
    if x.significand = Nat.pow 2 52 ∧ x.exponent ≠ minExponent then 4 * x.significand - 1
    else 4 * x.significand - 2
  (low, 4 * x.significand + 2)

/-- `10 ^ power` times `point` against `quarters / 4 * 2 ^ exponent`, both as natural numbers
over a common denominator. -/
def compared (x : Binary64) (power : Int) (point quarters : Nat) : Nat × Nat :=
  let tens := Nat.pow 10 power.natAbs
  let twos := Nat.pow 2 (x.exponent - 2).natAbs
  let left := if 0 ≤ power then point * tens else point
  let right := if 0 ≤ x.exponent - 2 then quarters * twos else quarters
  let left := if 0 ≤ x.exponent - 2 then left else left * twos
  let right := if 0 ≤ power then right else right * tens
  (left, right)

/-- Whether `point * 10 ^ power` reads back as the positive number `x`. -/
def readsBack (x : Binary64) (power : Int) (point : Nat) : Bool :=
  let (low, high) := x.quarterBounds
  let (p, l) := x.compared power point low
  let (p', h) := x.compared power point high
  if x.significand % 2 = 0 then l ≤ p && p' ≤ h else l < p && p' < h

/-- The greatest `n` with `n * 10 ^ power` at most the positive number `x`. -/
def floorOn (x : Binary64) (power : Int) : Nat :=
  let (unit, value) := x.compared power 1 (4 * x.significand)
  value / unit

/-- The point of the grid that stands for `x`, if one does: of two the nearer, of two equally
near the even one. -/
def pointOn (x : Binary64) (power : Int) : Option Nat :=
  let below := x.floorOn power
  let above := below + 1
  match below != 0 && x.readsBack power below, x.readsBack power above with
  | false, false => none
  | true, false => some below
  | false, true => some above
  | true, true =>
    let (twice, value) := x.compared power (below + above) (8 * x.significand)
    if value < twice then some below
    else if twice < value then some above
    else if below % 2 = 0 then some below else some above

/-- The first grid at or below `power` that holds a point for `x`; 17 digits always do. -/
def search (x : Binary64) (power : Int) : Nat → Nat × Int
  | 0 => (x.floorOn power, power)
  | steps + 1 =>
    match x.pointOn power with
    | some point => (point, power)
    | none => x.search (power - 1) steps

/-- A power of ten above the positive number `x`. -/
def powerAbove (x : Binary64) : Int :=
  ((x.significand.log2 + x.exponent + 1) * 30103) / 100000 + 1

/-- Drops the final zeros of a positive number of digits. -/
def trimZeros (point : Nat) (power : Int) : Nat × Int :=
  if h : point ≠ 0 ∧ point % 10 = 0 then trimZeros (point / 10) (power + 1) else (point, power)
termination_by point
decreasing_by omega

/-- The decimal with the fewest digits that reads back as `x`, of those the nearest to it:
its digits as a number without final zeros, and the power of ten. -/
def shortest (x : Binary64) : Nat × Int :=
  if x.isZero then (0, 0)
  else
    let (point, power) := x.search x.powerAbove 25
    trimZeros point power

end Binary64

/-- How a real number is laid out. A number with `point` digits before the decimal point is
written plainly when `leastPoint ≤ point ≤ greatestPoint`. -/
structure Layout where
  leastPoint : Int
  greatestPoint : Int
  exponentMark : String
  plusSign : String
  deriving Repr

namespace Layout

/-- Plain from `1e-5` up to below `1e16`, with at least one digit on either side of the point;
otherwise an exponent with its sign and no needless point. -/
def wire : Layout := ⟨-4, 16, "e", "+"⟩

def zeros (n : Nat) : String := String.ofList (List.replicate n '0')

/-- The magnitude of `digits * 10 ^ power`, for digits without final zeros. -/
def writeDecimal (layout : Layout) (digits : Nat) (power : Int) : String :=
  let text := toString digits
  let count := text.length
  let point : Int := count + power
  if layout.leastPoint ≤ point ∧ point ≤ layout.greatestPoint then
    if 0 ≤ power then text ++ zeros power.toNat ++ ".0"
    else if 0 < point then
      String.ofList (text.toList.take point.toNat) ++ "." ++ String.ofList (text.toList.drop point.toNat)
    else "0." ++ zeros (-point).toNat ++ text
  else
    let exponent := point - 1
    let mantissa :=
      match text.toList with
      | [] => ""
      | [c] => String.singleton c
      | c :: rest => String.singleton c ++ "." ++ String.ofList rest
    let sign := if 0 ≤ exponent then layout.plusSign else "-"
    mantissa ++ layout.exponentMark ++ sign ++ toString exponent.natAbs

/-- A number with its sign; both zeros keep theirs. -/
def write (layout : Layout) (x : Binary64) : String :=
  let (digits, power) := x.shortest
  let magnitude := if digits = 0 then "0.0" else layout.writeDecimal digits power
  if x.negative then "-" ++ magnitude else magnitude

end Layout

end Tendermint
