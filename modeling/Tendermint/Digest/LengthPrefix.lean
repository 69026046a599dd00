import Tendermint.Text.Bytes

/-!
# Tendermint.Digest.LengthPrefix

The length of a message in front of it, in groups of seven bits: the lowest group first, and
the high bit set on every byte but the last.
-/

namespace Tendermint.Digest

/-- A length in groups of seven bits. -/
def lengthPrefix (n : Nat) : Bytes :=
  if n < 128 then [UInt8.ofNat n]
  else UInt8.ofNat (n % 128 + 128) :: lengthPrefix (n / 128)
termination_by n
decreasing_by omega

/-- A message behind its length. -/
def withLength (message : Bytes) : Bytes := lengthPrefix message.length ++ message

end Tendermint.Digest
