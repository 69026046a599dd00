import Tendermint.Text.Hex

/-!
# Tendermint.Chain.Tx

Transactions: their hashes, what came of running them, and their proofs of inclusion.
-/

namespace Tendermint

/-- The hash that identifies a transaction. -/
structure TxHash where
  bytes : Bytes
  deriving DecidableEq, Repr

namespace TxHash

/-- The text of a hash: upper-case hexadecimal. -/
def text (hash : TxHash) : String := Hex.encodeUpper hash.bytes

def ofText (text : String) : Except HexError TxHash := (Hex.decode text).map TxHash.mk

end TxHash

/-- A key and a value that the application attached. -/
structure Tag where
  key : Bytes
  value : Bytes
  deriving DecidableEq, Repr

/-- What came of running a transaction; code zero means success. -/
structure TxOutcome where
  code : UInt32
  log : Option String
  data : Option Bytes
  tags : Option (List Tag)
  deriving DecidableEq, Repr

def TxOutcome.succeeded (outcome : TxOutcome) : Bool := outcome.code == 0

/-- A proof that a transaction is in a block. -/
structure TxProof where
  data : Bytes
  rootHash : Bytes
  total : UInt64
  index : UInt64
  aunts : List Bytes
  deriving DecidableEq, Repr

/-- A committed transaction. -/
structure TxRecord where
  tx : Bytes
  outcome : TxOutcome
  height : UInt64
  index : UInt32
  hash : TxHash
  proof : Option TxProof
  deriving DecidableEq, Repr

/-- One page of a search, or all pages together. -/
structure TxMatches where
  totalCount : UInt64
  txs : List TxRecord
  deriving DecidableEq, Repr

/-- The answer to a transaction that was handed in. -/
structure Submission where
  outcome : TxOutcome
  hash : TxHash
  deriving DecidableEq, Repr

/-- The answer to a transaction that was handed in and followed up to its block. -/
structure Inclusion where
  height : Option UInt64
  hash : TxHash
  check : TxOutcome
  delivery : Option TxOutcome
  deriving DecidableEq, Repr

/-- Both the check and the delivery report code zero. -/
def Inclusion.succeeded (inclusion : Inclusion) : Bool :=
  inclusion.check.succeeded &&
    match inclusion.delivery with
    | none => false
    | some delivery => delivery.succeeded

/-- A transaction announced by an event; its hash is computed on this side. -/
structure TxEvent where
  tx : Bytes
  hash : TxHash
  outcome : TxOutcome
  height : UInt64
  index : UInt32
  deriving DecidableEq, Repr

end Tendermint
