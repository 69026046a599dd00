/-!
# Tendermint.Number.Binary64

Finite binary64 numbers as exact data: a sign, a significand and a power of two. Rounding is
done once, in `Binary64.ofRatio`, on a quotient of natural numbers; product, quotient and the
reading of a decimal go through it.

* `Binary64.ofRatio`: the nearest number, a tie to the even significand, `none` past the largest.
* `Binary64.ofDecimal`: a decimal significand and a power of ten, each rounded before they meet.
-/

namespace Tendermint

/-- The finite number `significand * 2 ^ exponent` with its sign. `ofRatio` gives a significand of
53 bits unless the exponent is the least one, `-1074`. -/
structure Binary64 where
  negative : Bool
  significand : Nat
  exponent : Int
  deriving DecidableEq, Repr

namespace Binary64

/-- The least exponent. -/
def minExponent : Int := -1074

/-- The greatest exponent of a 53-bit significand. -/
def maxExponent : Int := 971

def zero (negative : Bool) : Binary64 := ⟨negative, 0, minExponent⟩

def isZero (x : Binary64) : Bool := x.significand == 0

/-- The quotient rounded to the nearest natural number, a half to the even one. -/
def roundHalfEven (num den : Nat) : Nat :=
  let floor := num / den
  let twice := 2 * (num % den)
  if twice < den then floor
  else if den < twice then floor + 1
  else floor + floor % 2

/-- `num / den / 2 ^ exponent` as a quotient of natural numbers. -/
def scaled (num den : Nat) (exponent : Int) : Nat × Nat :=
  if 0 ≤ exponent then (num, den * Nat.pow 2 exponent.toNat)
  else (num * Nat.pow 2 (-exponent).toNat, den)

/-- The exponent at which `num / den` has a 53-bit integer part, or the least exponent. -/
def fittingExponent (num den : Nat) : Int :=
  let guess : Int := (num.log2 : Int) - den.log2 - 52
  let (n, d) := scaled num den guess
  max minExponent (if n / d < Nat.pow 2 52 then guess - 1 else guess)

/-- The positive number nearest to `num / den`, or `none` where that is past the largest. -/
def ofRatio (num den : Nat) : Option Binary64 :=
  if num = 0 then some (zero false)
  else
    let exponent := fittingExponent num den
    let (n, d) := scaled num den exponent
    let rounded := roundHalfEven n d
    let (significand, exponent) :=
      if rounded = Nat.pow 2 53 then (Nat.pow 2 52, exponent + 1) else (rounded, exponent)
    if maxExponent < exponent then none else some ⟨false, significand, exponent⟩

def ofNat (n : Nat) : Option Binary64 := ofRatio n 1

/-- The magnitude as a quotient of natural numbers. -/
def ratio (x : Binary64) : Nat × Nat :=
  if 0 ≤ x.exponent then (x.significand * Nat.pow 2 x.exponent.toNat, 1)
  else (x.significand, Nat.pow 2 (-x.exponent).toNat)

/-- The rounded product of two magnitudes. -/
def mul (x y : Binary64) : Option Binary64 :=
  ofRatio (x.ratio.1 * y.ratio.1) (x.ratio.2 * y.ratio.2)

/-- The rounded quotient of two magnitudes. -/
def div (x y : Binary64) : Option Binary64 :=
  ofRatio (x.ratio.1 * y.ratio.2) (x.ratio.2 * y.ratio.1)

/-- The rounded power of ten. -/
def powerOfTen (k : Nat) : Option Binary64 := ofNat (Nat.pow 10 k)

/-- The largest power of ten that is finite. -/
def maxPowerOfTen : Nat := 308

/-- Divides `times` times by the largest power of ten. -/
def divideByLargest (x : Binary64) : Nat → Option Binary64
  | 0 => some x
  | times + 1 =>
    match (powerOfTen maxPowerOfTen).bind x.div with
    | none => none
    | some y => y.divideByLargest times

/-- Divides by `10 ^ k`, by the largest power as often as it takes. Four times leave nothing
of a number with a 64-bit integer part, so more are not counted. -/
def scaleDown (x : Binary64) (k : Nat) : Option Binary64 :=
  let times := (k - 1) / maxPowerOfTen
  match x.divideByLargest (min times 4) with
  | none => none
  | some y => (powerOfTen (k - maxPowerOfTen * times)).bind y.div

/-- Multiplies by `10 ^ k`; only zero survives a power past the largest. -/
def scaleUp (x : Binary64) (k : Nat) : Option Binary64 :=
  if k ≤ maxPowerOfTen then (powerOfTen k).bind x.mul
  else if x.isZero then some x
  else none

/-- The decimal `significand * 10 ^ exponent`: the significand is rounded first, then its
product or quotient with a rounded power of ten. `none` where the result is not finite. -/
def ofDecimal (negative : Bool) (significand : Nat) (exponent : Int) : Option Binary64 :=
  match ofNat significand with
  | none => none
  | some x =>
    let magnitude :=
      if 0 ≤ exponent then x.scaleUp exponent.toNat else x.scaleDown (-exponent).toNat
    magnitude.map fun y => { y with negative }

end Binary64

end Tendermint
