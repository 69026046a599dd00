/-!
# Tendermint.Url.Punycode

The code points behind a label of an internationalised domain name, after RFC 3492: those of
ASCII as they are, and then one integer for each of the others, which says what it is and where
it goes.

* `Punycode.encode`, `Punycode.decode?`.
-/

namespace Tendermint.Url.Punycode

/-- The letters and then the figures, in order, as digits. -/
def letter (digit : Nat) : Char :=
  if digit < 26 then Char.ofNat (97 + digit) else Char.ofNat (22 + digit)

def digit? (c : Char) : Option Nat :=
  if 'a' ≤ c ∧ c ≤ 'z' then some (c.toNat - 97)
  else if 'A' ≤ c ∧ c ≤ 'Z' then some (c.toNat - 65)
  else if '0' ≤ c ∧ c ≤ '9' then some (c.toNat - 22)
  else none

/-- Divides by 35 until what is left is small, and counts the steps. -/
def settle (delta : Nat) : Nat × Nat :=
  if 455 < delta then
    let (left, steps) := settle (delta / 35)
    (left, steps + 36)
  else (delta, 0)
termination_by delta
decreasing_by omega

/-- The bias after a code point was inserted. -/
def adapt (delta points : Nat) (first : Bool) : Nat :=
  let delta := if first then delta / 700 else delta / 2
  let delta := delta + delta / points
  let (left, steps) := settle delta
  steps + 36 * left / (left + 38)

/-- The threshold of the digit at position `k`. -/
def threshold (k bias : Nat) : Nat :=
  if k ≤ bias + 1 then 1 else if bias + 26 ≤ k then 26 else k - bias

theorem one_le_threshold (k bias : Nat) : 1 ≤ threshold k bias := by
  unfold threshold
  split
  · omega
  · split <;> omega

section Encode

/-- The digits of an integer, the smallest place first. The last one is below its threshold. -/
def integer (bias k n : Nat) : List Char :=
  let t := threshold k bias
  if n < t then [letter n]
  else letter (t + (n - t) % (36 - t)) :: integer bias (k + 36) ((n - t) / (36 - t))
termination_by n
decreasing_by
  have := one_le_threshold k bias
  exact Nat.lt_of_le_of_lt (Nat.div_le_self _ _) (by omega)

/-- What is written, how many places were passed since the last code point, and how many code
points there are by now. -/
structure Progress where
  text : List Char
  passed : Nat
  bias : Nat
  count : Nat

/-- Passes one place of the text on the way of a code point, and writes it if it is there. -/
def pass (basic point : Nat) (p : Progress) (here : Nat) : Progress :=
  if here < point then { p with passed := p.passed + 1 }
  else if here = point then
    { text := p.text ++ integer p.bias 36 p.passed
      passed := 0
      bias := adapt p.passed (p.count + 1) (p.count == basic)
      count := p.count + 1 }
  else p

/-- Writes a code point wherever it is in a text, after all smaller ones; `next` is the first
that may be written. -/
def writeAll (basic : Nat) (points : List Nat) (next : Nat) (p : Progress) (point : Nat) :
    Progress :=
  let start := { p with passed := p.passed + (point - next) * (p.count + 1) }
  let done := points.foldl (pass basic point) start
  { done with passed := done.passed + 1 }

/-- The code points of a text in ASCII. -/
def encode (points : List Nat) : List Char :=
  let basic := points.filter (· < 128)
  let others := ((points.filter (128 ≤ ·)).mergeSort (· ≤ ·)).eraseReps
  let front := if basic.isEmpty then [] else basic.map Char.ofNat ++ ['-']
  let start : Nat × Progress := (128, ⟨front, 0, 72, basic.length⟩)
  (others.foldl
    (fun (next, p) point => (point + 1, writeAll basic.length points next p point)) start).2.text

end Encode

/-- The state between two code points: what is decoded, and where the next one goes. -/
structure State where
  output : List Nat
  point : Nat
  index : Nat
  bias : Nat

/-- A variable-length integer: its digits so far, the weight of the next, and its position. -/
structure Partial where
  index : Nat
  weight : Nat
  position : Nat

/-- Inserts the code point that a finished integer stands for. -/
def insert (s : State) (index : Nat) : Option State :=
  let length := s.output.length + 1
  let point := s.point + index / length
  let place := index % length
  if 0x10FFFF < point ∨ (0xD800 ≤ point ∧ point < 0xE000) then none
  else
    some ⟨s.output.take place ++ point :: s.output.drop place, point, place + 1,
      adapt (index - s.index) length (s.index == 0)⟩

/-- Integers have to fit 32 bits. -/
def fits (n : Nat) : Bool := n < UInt32.size

/-- Reads the digits one by one. -/
def run : State → Option Partial → List Char → Option (List Nat)
  | s, none, [] => some s.output
  | _, some _, [] => none
  | s, part, c :: rest =>
    match digit? c with
    | none => none
    | some d =>
      let p := part.getD ⟨s.index, 1, 36⟩
      let index := p.index + d * p.weight
      let t := threshold p.position s.bias
      let weight := p.weight * (36 - t)
      if !fits index then none
      else if d < t then
        match insert s index with
        | none => none
        | some next => run next none rest
      else if !fits weight then none
      else run s (some ⟨index, weight, p.position + 36⟩) rest

/-- What stands before the last hyphen of a label, which is ASCII, and the digits after it. A
hyphen with nothing before it is no such mark. -/
def parts (label : List Char) : List Char × List Char :=
  let reversed := label.reverse
  let digits := (reversed.takeWhile (· ≠ '-')).reverse
  match (reversed.dropWhile (· ≠ '-')).drop 1 with
  | [] => ([], label)
  | basic => (basic.reverse, digits)

/-- The code points of an encoded label. -/
def decode? (label : List Char) : Option (List Nat) :=
  let (basic, digits) := parts label
  run ⟨basic.map Char.toNat, 128, 0, 72⟩ none digits

end Tendermint.Url.Punycode
