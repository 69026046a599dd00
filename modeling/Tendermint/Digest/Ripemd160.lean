import Tendermint.Digest.Block

/-!
# Tendermint.Digest.Ripemd160

RIPEMD-160: two lines of eighty steps over the same block, joined at the end.
-/

namespace Tendermint.Digest.Ripemd160

/-- The five working words. -/
structure State where
  a : UInt32
  b : UInt32
  c : UInt32
  d : UInt32
  e : UInt32

def start : State := ⟨0x67452301, 0xefcdab89, 0x98badcfe, 0x10325476, 0xc3d2e1f0⟩

/-- What a line does at each step: which word it takes, how far it turns, and for each group of
sixteen steps the constant and the mixing function. -/
structure Line where
  words : Array Nat
  turns : Array UInt32
  constants : Array UInt32
  mixes : Array (UInt32 → UInt32 → UInt32 → UInt32)

def mix1 (x y z : UInt32) : UInt32 := x ^^^ y ^^^ z

def mix2 (x y z : UInt32) : UInt32 := (x &&& y) ||| ((~~~ x) &&& z)

def mix3 (x y z : UInt32) : UInt32 := (x ||| ~~~ y) ^^^ z

def mix4 (x y z : UInt32) : UInt32 := (x &&& z) ||| (y &&& ~~~ z)

def mix5 (x y z : UInt32) : UInt32 := x ^^^ (y ||| ~~~ z)

def left : Line where
  words := #[
    0, 1, 2, 3, 4, 5, 6, 7, 8, 9, 10, 11, 12, 13, 14, 15,
    7, 4, 13, 1, 10, 6, 15, 3, 12, 0, 9, 5, 2, 14, 11, 8,
    3, 10, 14, 4, 9, 15, 8, 1, 2, 7, 0, 6, 13, 11, 5, 12,
    1, 9, 11, 10, 0, 8, 12, 4, 13, 3, 7, 15, 14, 5, 6, 2,
    4, 0, 5, 9, 7, 12, 2, 10, 14, 1, 3, 8, 11, 6, 15, 13]
  turns := #[
    11, 14, 15, 12, 5, 8, 7, 9, 11, 13, 14, 15, 6, 7, 9, 8,
    7, 6, 8, 13, 11, 9, 7, 15, 7, 12, 15, 9, 11, 7, 13, 12,
    11, 13, 6, 7, 14, 9, 13, 15, 14, 8, 13, 6, 5, 12, 7, 5,
    11, 12, 14, 15, 14, 15, 9, 8, 9, 14, 5, 6, 8, 6, 5, 12,
    9, 15, 5, 11, 6, 8, 13, 12, 5, 12, 13, 14, 11, 8, 5, 6]
  constants := #[0, 0x5a827999, 0x6ed9eba1, 0x8f1bbcdc, 0xa953fd4e]
  mixes := #[mix1, mix2, mix3, mix4, mix5]

def right : Line where
  words := #[
    5, 14, 7, 0, 9, 2, 11, 4, 13, 6, 15, 8, 1, 10, 3, 12,
    6, 11, 3, 7, 0, 13, 5, 10, 14, 15, 8, 12, 4, 9, 1, 2,
    15, 5, 1, 3, 7, 14, 6, 9, 11, 8, 12, 2, 10, 0, 4, 13,
    8, 6, 4, 1, 3, 11, 15, 0, 5, 12, 2, 13, 9, 7, 10, 14,
    12, 15, 10, 4, 1, 5, 8, 7, 6, 2, 13, 14, 0, 3, 9, 11]
  turns := #[
    8, 9, 9, 11, 13, 15, 15, 5, 7, 7, 8, 11, 14, 14, 12, 6,
    9, 13, 15, 7, 12, 8, 9, 11, 7, 7, 12, 7, 6, 15, 13, 11,
    9, 7, 15, 11, 8, 6, 6, 14, 12, 13, 5, 14, 13, 13, 7, 5,
    15, 5, 8, 11, 14, 14, 6, 14, 6, 9, 12, 9, 12, 5, 15, 8,
    8, 5, 12, 9, 12, 5, 14, 6, 8, 13, 6, 5, 15, 13, 11, 11]
  constants := #[0x50a28be6, 0x5c4dd124, 0x6d703ef3, 0x7a6d76e9, 0]
  mixes := #[mix5, mix4, mix3, mix2, mix1]

/-- The steps of a line from number `index` on. -/
def Line.steps (line : Line) (block : Block) : Nat → Nat → State → State
  | 0, _, s => s
  | count + 1, index, s =>
    let group := index / 16
    let mixed := (line.mixes.getD group mix1) s.b s.c s.d
    let sum := s.a + mixed + block.getD (line.words.getD index 0) 0 + line.constants.getD group 0
    let turned := rotateLeft sum (line.turns.getD index 0) + s.e
    line.steps block count (index + 1) ⟨s.e, turned, s.b, rotateLeft s.c 10, s.d⟩

def compress (s : State) (block : Block) : State :=
  let l := left.steps block 80 0 s
  let r := right.steps block 80 0 s
  ⟨s.b + l.c + r.d, s.c + l.d + r.e, s.d + l.e + r.a, s.e + l.a + r.b, s.a + l.b + r.c⟩

/-- The digest of a message, 20 bytes. -/
def hash (message : Bytes) : Bytes :=
  let s := digest .little compress start message
  [s.a, s.b, s.c, s.d, s.e].flatMap Endian.little.wordBytes

end Tendermint.Digest.Ripemd160
