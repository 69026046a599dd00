import Tendermint.Text.Bytes

/-!
# Tendermint.Chain.Validator

Validators and the limits that they agree on. Keys and signatures are Ed25519 throughout.
-/

namespace Tendermint

/-- An Ed25519 public key. -/
structure PublicKey where
  data : Bytes
  deriving DecidableEq, Repr

/-- An Ed25519 signature. -/
structure Signature where
  data : Bytes
  deriving DecidableEq, Repr

/-- A validator. Which optional parts it has depends on where it was found. -/
structure Validator where
  address : Option Bytes
  publicKey : PublicKey
  votingPower : Int64
  name : Option String
  accum : Option Int64
  deriving DecidableEq, Repr

/-- Limits on a block. -/
structure BlockLimits where
  maxBytes : UInt64
  maxGas : Int64
  deriving DecidableEq, Repr

/-- Limits on evidence. -/
structure EvidenceLimits where
  maxAge : UInt64
  deriving DecidableEq, Repr

/-- The parameters of consensus. -/
structure ConsensusParams where
  block : BlockLimits
  evidence : EvidenceLimits
  deriving DecidableEq, Repr

end Tendermint
