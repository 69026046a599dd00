import Tendermint.Text.Bytes

/-!
# Tendermint.Digest.Block

What the two digests share: a message closed by a one bit, zeros and its length in bits, cut
into blocks of sixteen 32-bit words.
-/

namespace Tendermint.Digest

/-- A block of sixteen words. -/
abbrev Block := Array UInt32

/-- The byte order of words and of the length. -/
inductive Endian where
  | big
  | little
  deriving DecidableEq, Repr

/-- The `count` low bytes of a number, the lowest first. -/
def lowBytes : Nat → Nat → Bytes
  | 0, _ => []
  | count + 1, n => UInt8.ofNat (n % 256) :: lowBytes count (n / 256)

def Endian.arrange (order : Endian) (lowFirst : Bytes) : Bytes :=
  match order with
  | .little => lowFirst
  | .big => lowFirst.reverse

/-- The bytes that close a message of `length` bytes: they fill up its last block. -/
def closing (order : Endian) (length : Nat) : Bytes :=
  0x80 :: List.replicate ((119 - length % 64) % 64) 0 ++ order.arrange (lowBytes 8 (length * 8))

/-- A word of four bytes. -/
def Endian.word (order : Endian) (a b c d : UInt8) : UInt32 :=
  match order with
  | .big => a.toUInt32 <<< 24 ||| b.toUInt32 <<< 16 ||| c.toUInt32 <<< 8 ||| d.toUInt32
  | .little => d.toUInt32 <<< 24 ||| c.toUInt32 <<< 16 ||| b.toUInt32 <<< 8 ||| a.toUInt32

/-- The four bytes of a word. -/
def Endian.wordBytes (order : Endian) (w : UInt32) : Bytes := order.arrange (lowBytes 4 w.toNat)

/-- Feeds a message to `compress`, block by block; `block` holds the words already read. -/
def absorb {σ : Type} (order : Endian) (compress : σ → Block → σ) :
    σ → Block → Bytes → σ
  | state, block, a :: b :: c :: d :: rest =>
    let block := block.push (order.word a b c d)
    if block.size = 16 then absorb order compress (compress state block) #[] rest
    else absorb order compress state block rest
  | state, _, _ => state

/-- Runs `compress` over a whole message. -/
def digest {σ : Type} (order : Endian) (compress : σ → Block → σ) (start : σ) (message : Bytes) : σ :=
  absorb order compress start #[] (message ++ closing order message.length)

def rotateLeft (w : UInt32) (n : UInt32) : UInt32 := w <<< n ||| w >>> (32 - n)

def rotateRight (w : UInt32) (n : UInt32) : UInt32 := w >>> n ||| w <<< (32 - n)

end Tendermint.Digest
