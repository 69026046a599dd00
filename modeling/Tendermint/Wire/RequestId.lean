import Tendermint.Json.Compact

/-!
# Tendermint.Wire.RequestId

The tokens that tie an answer to its request. A node tags the events of a subscription with the
identifier of the subscribe request and the suffix `#event`.

* `RequestId.ofJson?`: a natural number of 64 bits, or a string.
* `RequestId.key`: the subscription that a frame with this identifier belongs to.
* `RequestId.Counter`: identifiers in a row, as decimal strings.
-/

namespace Tendermint

/-- What identifies a request. A number never equals a string. -/
inductive RequestId where
  | number (n : UInt64)
  | text (s : String)
  deriving DecidableEq, Repr

namespace RequestId

def ofJson? : Json → Option RequestId
  | .number (.integer n) =>
    if 0 ≤ n ∧ n < UInt64.size then some (.number (UInt64.ofNat n.toNat)) else none
  | .string s => some (.text s)
  | _ => none

def toJson : RequestId → Json
  | .number n => .nat n.toNat
  | .text s => .string s

/-- An identifier inside a sentence. -/
def display : RequestId → String
  | .number n => toString n.toNat
  | .text s => s

def eventSuffix : List Char := "#event".toList

/-- A text without one ending, if it ends so. -/
def withoutEnding (ending text : List Char) : List Char :=
  if ending.isSuffixOf text then text.take (text.length - ending.length) else text

/-- An identifier without the suffix that marks an event. -/
def key : RequestId → RequestId
  | .number n => .number n
  | .text s => .text (String.ofList (withoutEnding eventSuffix s.toList))

/-- The identifier of the events of a subscription. -/
def ofEvent (s : String) : RequestId := .text (s ++ String.ofList eventSuffix)

/-- The next number of a row of identifiers; after the last of 64 bits comes zero. -/
structure Counter where
  next : UInt64
  deriving DecidableEq, Repr

namespace Counter

/-- A row starts at the clock in microseconds, cut to 52 bits; one whose clock is before 1970
starts at one. The numbers stay exact in binary64 for a long time. -/
def start (microseconds : Option Nat) : Counter :=
  match microseconds with
  | some n => ⟨UInt64.ofNat (n % Nat.pow 2 52)⟩
  | none => ⟨1⟩

/-- Takes one identifier. -/
def take (counter : Counter) : RequestId × Counter :=
  (.text (toString counter.next.toNat), ⟨counter.next + 1⟩)

end Counter

end RequestId

end Tendermint
