import Tendermint.Unicode.Composite

/-!
# Tendermint.Unicode.Normal

The composed normal form of a text: every composite is taken apart, marks are put in order, and
what can be put together is.

* `decomposed`, `ordered`, `composed`: the three steps.
* `isNormal`: whether a text is its own normal form.
-/

namespace Tendermint.Unicode

/-- How many times a composite can be taken apart. -/
def maxDepth : Nat := 2

/-- A code point in parts of which none is a composite. -/
def decomposed : Nat → Nat → List Nat
  | 0, point => [point]
  | depth + 1, point =>
    match parts? point with
    | none => [point]
    | some (first, second) => decomposed depth first ++ [second]

/-- Puts a mark at its place in a text that is held in reverse. -/
def placed (mark : Nat) : List Nat → List Nat
  | [] => [mark]
  | last :: before =>
    if combiningClass mark < combiningClass last then last :: placed mark before
    else mark :: last :: before

/-- A text with the marks on each character in order. -/
def ordered (text : List Nat) : List Nat :=
  (text.foldl (fun before point =>
    if combiningClass point = 0 then point :: before else placed point before) []).reverse

/-- The composite of a character and a code point after the marks between the two, unless one
of these stands in the way. -/
def joined? (start : Option Nat) (between : List Nat) (point : Nat) : Option Nat :=
  match start, between.getLast? with
  | none, _ => none
  | some first, none => join? first point
  | some first, some last =>
    if combiningClass last < combiningClass point then join? first point else none

/-- Puts together what can be, where `start` is the last character and `between` the marks on
it that stay. -/
def composed (start : Option Nat) (between : List Nat) : List Nat → List Nat
  | [] => start.toList ++ between
  | point :: rest =>
    match joined? start between point with
    | some composite => composed (some composite) between rest
    | none =>
      if combiningClass point = 0 then start.toList ++ between ++ composed (some point) [] rest
      else composed start (between ++ [point]) rest

def normalForm (text : List Nat) : List Nat :=
  composed none [] (ordered (text.flatMap (decomposed maxDepth)))

def isNormal (text : List Nat) : Bool := normalForm text == text

end Tendermint.Unicode
