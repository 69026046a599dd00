import Tendermint.Text.Blank

/-!
# Tendermint.Text.Integer

Integers in decimal: an optional sign, then digits. The value is built up digit by digit inside
a range of 128 bits, so the first fault from the left is the one that is named.

* `Integer.ofText`: reads a text without white space.
* `IntegerError.message`: the wording of the faults.
-/

namespace Tendermint

/-- Why a text is not an integer. -/
inductive IntegerError where
  | empty
  | invalidDigit
  | tooLarge
  | tooSmall
  deriving DecidableEq, Repr

def IntegerError.message : IntegerError → String
  | .empty => "cannot parse integer from empty string"
  | .invalidDigit => "invalid digit found in string"
  | .tooLarge => "number too large to fit in target type"
  | .tooSmall => "number too small to fit in target type"

namespace Integer

def greatest : Int := Nat.pow 2 127 - 1

def least : Int := -Nat.pow 2 127

def digit? (c : Char) : Option Nat :=
  if '0' ≤ c ∧ c ≤ '9' then some (c.toNat - 48) else none

/-- Adds digits to a value that is not negative. -/
def countUp (value : Int) : List Char → Except IntegerError Int
  | [] => .ok value
  | c :: rest =>
    match digit? c with
    | none => .error .invalidDigit
    | some d =>
      let next := value * 10 + d
      if greatest < next then .error .tooLarge else countUp next rest

/-- Adds digits to a value that is not positive. -/
def countDown (value : Int) : List Char → Except IntegerError Int
  | [] => .ok value
  | c :: rest =>
    match digit? c with
    | none => .error .invalidDigit
    | some d =>
      let next := value * 10 - d
      if next < least then .error .tooSmall else countDown next rest

/-- Reads a sign and digits. -/
def ofChars : List Char → Except IntegerError Int
  | [] => .error .empty
  | ['+'] => .error .invalidDigit
  | ['-'] => .error .invalidDigit
  | '+' :: rest => countUp 0 rest
  | '-' :: rest => countDown 0 rest
  | text => countUp 0 text

/-- Reads an integer after trimming white space. -/
def ofText (text : String) : Except IntegerError Int := ofChars (Text.trim text.toList)

end Integer

end Tendermint
