/-!
# Tendermint.Text.Duration

Spans of time in nanoseconds, and their text: the largest unit of which there is at least one,
with a fraction that has no final zeros.
-/

namespace Tendermint

/-- A span of time. -/
structure Duration where
  nanoseconds : Nat
  deriving DecidableEq, Repr

namespace Duration

def ofMilliseconds (n : Nat) : Duration := ⟨n * 1000000⟩

def ofSeconds (n : Nat) : Duration := ⟨n * 1000000000⟩

def isZero (d : Duration) : Bool := d.nanoseconds = 0

/-- A number in a unit of `10 ^ places` nanoseconds. -/
def inUnit (places : Nat) (unit : String) (nanoseconds : Nat) : String :=
  let size := Nat.pow 10 places
  let digits := (toString (nanoseconds % size)).toList
  let filled := List.replicate (places - digits.length) '0' ++ digits
  let fraction := (filled.reverse.dropWhile (· = '0')).reverse
  let point := if fraction.isEmpty then "" else "." ++ String.ofList fraction
  toString (nanoseconds / size) ++ point ++ unit

/-- The text of a span. -/
def text (d : Duration) : String :=
  let n := d.nanoseconds
  if 1000000000 ≤ n then inUnit 9 "s" n
  else if 1000000 ≤ n then inUnit 6 "ms" n
  else if 1000 ≤ n then inUnit 3 "µs" n
  else toString n ++ "ns"

end Duration

end Tendermint
