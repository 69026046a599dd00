import Tendermint.Unicode.Allowed
import Tendermint.Unicode.Direction
import Tendermint.Unicode.Joining
import Tendermint.Unicode.Normal
import Tendermint.Url.Punycode

/-!
# Tendermint.Url.Label

The labels of a domain name in ASCII, after UTS #46. A label that begins with `xn--` stands for
code points beyond ASCII, which have to be ones that nothing else stands for. In a name that
has code points written from right to left every label keeps the rule for both directions.

* `Label.written?`: the label for some code points.
* `Label.points?`: the code points of a label.
* `Label.areValid`: whether some labels make a domain name.
-/

namespace Tendermint.Url.Label

/-- What an encoded label begins with. -/
def encodedMark : List Char := "xn--".toList

/-- The longest encoding that is looked at. -/
def maxEncoded : Nat := 2000

/-- The most code points that a label can stand for. -/
def maxDecoded : Nat := 1000

/-- The label for some code points. -/
def written? (points : List Nat) : Option (List Char) :=
  if points.all (· < 128) then some (points.map Char.ofNat)
  else if (encodedMark.map Char.toNat).isPrefixOf points || maxDecoded < points.length then none
  else some (encodedMark ++ Punycode.encode points)

/-- Whether an encoded label may stand for some code points. One beyond ASCII is among them, as
the label needs no encoding otherwise. -/
def isDecoded (points : List Nat) : Bool :=
  points.any (127 < ·) && points.length ≤ maxDecoded &&
    points.all (fun point => point < 128 || Unicode.isAllowed point) &&
    !(points.head?.any Unicode.isMark) && Unicode.isNormal points && Unicode.joinersFit [] points

/-- The code points of a label in lower case. -/
def points? (label : List Char) : Option (List Nat) :=
  if encodedMark.isPrefixOf label then
    let encoded := label.drop encodedMark.length
    if maxEncoded < encoded.length then none else (Punycode.decode? encoded).filter isDecoded
  else some (label.map Char.toNat)

/-- Whether all labels keep to the directions of a name. -/
def keepDirections (labels : List (List Nat)) : Bool :=
  !labels.any (·.any Unicode.isRightward) ||
    labels.all fun label => Unicode.Direction.fits (label.map Unicode.direction)

def areValid (labels : List (List Char)) : Bool :=
  match labels.mapM points? with
  | none => false
  | some labels => keepDirections labels

end Tendermint.Url.Label
