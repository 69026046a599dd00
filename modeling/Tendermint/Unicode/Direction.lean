import Tendermint.Unicode.Mark

/-!
# Tendermint.Unicode.Direction

The direction in which a code point is written, and labels that can be shown next to each other
in a domain name with more than one direction. The table is right for code points that a label
may hold.

* `direction`: the class of a code point.
* `isRightward`: whether a code point makes its domain name one of both directions.
* `Direction.fits`: the rule for a label of such a name, after RFC 5893.
-/

namespace Tendermint.Unicode

/-- How a code point is written. -/
inductive Direction where
  /-- From left to right. -/
  | left
  /-- From right to left. -/
  | right
  /-- From right to left, with letters that join. -/
  | arabic
  | europeanNumber
  | europeanSeparator
  | europeanTerminator
  | arabicNumber
  | commonSeparator
  /-- Like the code point before it. -/
  | nonspacing
  | boundary
  /-- Like what is around it. -/
  | neutral
  deriving DecidableEq, Repr

/-- The code points that are neither marks without room nor written from left to right. -/
def directions : RangeMap Direction := [
  (0x21, 0x22, .neutral), (0x23, 0x25, .europeanTerminator), (0x26, 0x2a, .neutral),
  (0x2b, 0x2b, .europeanSeparator), (0x2c, 0x2c, .commonSeparator),
  (0x2d, 0x2d, .europeanSeparator), (0x2e, 0x2f, .commonSeparator), (0x30, 0x39, .europeanNumber),
  (0x3a, 0x3a, .commonSeparator), (0x3b, 0x40, .neutral), (0x5b, 0x60, .neutral),
  (0x7b, 0x7e, .neutral), (0xa1, 0xa1, .neutral), (0xa2, 0xa5, .europeanTerminator),
  (0xa6, 0xae, .neutral), (0xb0, 0xb1, .europeanTerminator), (0xb6, 0xd7, .neutral),
  (0xf7, 0xf7, .neutral), (0x2b9, 0x2ba, .neutral), (0x2c2, 0x2cf, .neutral),
  (0x2d2, 0x2ed, .neutral), (0x2ef, 0x2ff, .neutral), (0x375, 0x375, .neutral),
  (0x3f6, 0x3f6, .neutral), (0x58a, 0x58e, .neutral), (0x58f, 0x58f, .europeanTerminator),
  (0x5be, 0x5f4, .right), (0x606, 0x607, .neutral), (0x608, 0x608, .arabic),
  (0x609, 0x60a, .europeanTerminator), (0x60b, 0x60b, .arabic), (0x60c, 0x60c, .commonSeparator),
  (0x60d, 0x60d, .arabic), (0x60e, 0x60f, .neutral), (0x61b, 0x64a, .arabic),
  (0x660, 0x669, .arabicNumber), (0x66a, 0x66a, .europeanTerminator),
  (0x66b, 0x66c, .arabicNumber), (0x66d, 0x6d5, .arabic), (0x6de, 0x6de, .neutral),
  (0x6e5, 0x6e6, .arabic), (0x6e9, 0x6e9, .neutral), (0x6ee, 0x6ef, .arabic),
  (0x6f0, 0x6f9, .europeanNumber), (0x6fa, 0x7b1, .arabic), (0x7c0, 0x7f5, .right),
  (0x7f6, 0x7f9, .neutral), (0x7fa, 0x85e, .right), (0x860, 0x8c9, .arabic),
  (0x9f2, 0x9f3, .europeanTerminator), (0x9fb, 0x9fb, .europeanTerminator),
  (0xaf1, 0xaf1, .europeanTerminator), (0xbf3, 0xbf8, .neutral),
  (0xbf9, 0xbf9, .europeanTerminator), (0xbfa, 0xbfa, .neutral), (0xc78, 0xc7e, .neutral),
  (0xe3f, 0xe3f, .europeanTerminator), (0xf3a, 0xf3d, .neutral), (0x1390, 0x1399, .neutral),
  (0x1400, 0x1400, .neutral), (0x169b, 0x169c, .neutral), (0x17db, 0x17db, .europeanTerminator),
  (0x17f0, 0x180a, .neutral), (0x1940, 0x1945, .neutral), (0x19de, 0x19ff, .neutral),
  (0x200c, 0x200d, .boundary), (0x2010, 0x2027, .neutral), (0x2030, 0x2032, .europeanTerminator),
  (0x2035, 0x2043, .neutral), (0x2044, 0x2044, .commonSeparator), (0x2045, 0x205e, .neutral),
  (0x20a0, 0x20c1, .europeanTerminator), (0x2104, 0x2129, .neutral),
  (0x212e, 0x212e, .europeanTerminator), (0x213a, 0x214d, .neutral), (0x218a, 0x2211, .neutral),
  (0x2212, 0x2212, .europeanSeparator), (0x2213, 0x2213, .europeanTerminator),
  (0x2214, 0x2335, .neutral), (0x237b, 0x2394, .neutral), (0x2396, 0x26ab, .neutral),
  (0x26ad, 0x27ff, .neutral), (0x2900, 0x2bff, .neutral), (0x2ce5, 0x2cea, .neutral),
  (0x2cf9, 0x2cff, .neutral), (0x2e00, 0x3004, .neutral), (0x3008, 0x3020, .neutral),
  (0x3030, 0x3030, .neutral), (0x3037, 0x3037, .neutral), (0x303d, 0x303f, .neutral),
  (0x30a0, 0x30a0, .neutral), (0x30fb, 0x30fb, .neutral), (0x31c0, 0x31e5, .neutral),
  (0x4dc0, 0x4dff, .neutral), (0xa490, 0xa4c6, .neutral), (0xa60d, 0xa60f, .neutral),
  (0xa673, 0xa67f, .neutral), (0xa700, 0xa721, .neutral), (0xa788, 0xa788, .neutral),
  (0xa828, 0xa82b, .neutral), (0xa838, 0xa839, .europeanTerminator), (0xa874, 0xa877, .neutral),
  (0xab6a, 0xab6b, .neutral), (0xfbb2, 0xfbc2, .arabic), (0xfbc3, 0xfe46, .neutral),
  (0xfe73, 0xfe73, .arabic), (0x10101, 0x10101, .neutral), (0x10140, 0x1018c, .neutral),
  (0x10190, 0x101a0, .neutral), (0x102e1, 0x102fb, .europeanNumber), (0x10800, 0x1091b, .right),
  (0x1091f, 0x1091f, .neutral), (0x10920, 0x10b35, .right), (0x10b39, 0x10b3f, .neutral),
  (0x10b40, 0x10cff, .right), (0x10d00, 0x10d23, .arabic), (0x10d30, 0x10d49, .arabicNumber),
  (0x10d4a, 0x10d4f, .right), (0x10d6e, 0x10d6e, .neutral), (0x10d6f, 0x10d8f, .right),
  (0x10e60, 0x10e7e, .arabicNumber), (0x10e80, 0x10eb1, .right), (0x10ec2, 0x10ec7, .arabic),
  (0x10ed0, 0x10ed8, .neutral), (0x10f00, 0x10f27, .right), (0x10f30, 0x10f59, .arabic),
  (0x10f70, 0x10ff6, .right), (0x11052, 0x11065, .neutral), (0x11660, 0x1166c, .neutral),
  (0x11fd5, 0x11fdc, .neutral), (0x11fdd, 0x11fe0, .europeanTerminator),
  (0x11fe1, 0x11ff1, .neutral), (0x16fe2, 0x16fe2, .neutral), (0x1cc00, 0x1cef0, .neutral),
  (0x1d1e9, 0x1d245, .neutral), (0x1d300, 0x1d356, .neutral),
  (0x1e2ff, 0x1e2ff, .europeanTerminator), (0x1e800, 0x1e95f, .right), (0x1ec71, 0x1ed3d, .arabic),
  (0x1eef0, 0x1f12f, .neutral), (0x1f16d, 0x1f16f, .neutral), (0x1f1ad, 0x1f1ad, .neutral),
  (0x1f260, 0x1fbfa, .neutral)]

/-- Marks without room of their own that are still written from left to right. -/
def leftMarks : List Nat := [0xcbf, 0xcc6, 0x11a07, 0x11a08, 0x11c3f]

def direction (point : Nat) : Direction :=
  if point ∈ leftMarks then .left
  else if isNonspacing point then .nonspacing
  else (directions.get? point).getD .left

def isRightward (point : Nat) : Bool := direction point ∈ [.right, .arabic, .arabicNumber]

namespace Direction

/-- What may stand inside a label that begins from the left. -/
def isInLeft (direction : Direction) : Bool := direction ∉ [.right, .arabic, .arabicNumber]

/-- What may end a label that begins from the left. -/
def endsLeft (direction : Direction) : Bool := direction ∈ [.left, .europeanNumber]

/-- What may end a label that begins from the right. -/
def endsRight (direction : Direction) : Bool :=
  direction ∈ [.right, .arabic, .europeanNumber, .arabicNumber]

/-- Whether the rest of a label fits its first code point; `reversed` begins with the last one
that is not a mark. Numbers of both kinds do not mix from the right. -/
def continues (first : Direction) (reversed : List Direction) : Bool :=
  match first, reversed with
  | .left, [] => true
  | .left, last :: middle => last.endsLeft && middle.all isInLeft
  | .right, reversed => fromRight reversed
  | .arabic, reversed => fromRight reversed
  | _, _ => false
where
  fromRight : List Direction → Bool
    | [] => true
    | last :: middle =>
      last.endsRight && !middle.contains .left &&
        !((last :: middle).contains .europeanNumber && (last :: middle).contains .arabicNumber)

/-- Whether a label can stand in a domain name of both directions. -/
def fits : List Direction → Bool
  | [] => true
  | first :: rest => first.continues (rest.reverse.dropWhile (· == .nonspacing))

end Direction

end Tendermint.Unicode
