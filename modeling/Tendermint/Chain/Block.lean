import Tendermint.Time.Timestamp
import Tendermint.Chain.Tx
import Tendermint.Chain.Validator

/-!
# Tendermint.Chain.Block

Blocks: identifiers, headers, the votes that commit them and evidence against validators.
-/

namespace Tendermint

/-- The parts that a block was split into. -/
structure PartSet where
  total : UInt64
  hash : Bytes
  deriving DecidableEq, Repr

structure BlockId where
  hash : Bytes
  parts : PartSet
  deriving DecidableEq, Repr

structure Header where
  chainId : String
  height : UInt64
  time : Timestamp
  numTxs : UInt64
  totalTxs : UInt64
  lastBlockId : BlockId
  appHash : Bytes
  consensusHash : Bytes
  dataHash : Bytes
  evidenceHash : Bytes
  lastCommitHash : Bytes
  lastResultsHash : Bytes
  validatorsHash : Bytes
  deriving DecidableEq, Repr

structure Vote where
  kind : UInt32
  validatorAddress : Bytes
  validatorIndex : UInt64
  height : UInt64
  round : UInt64
  timestamp : Timestamp
  blockId : BlockId
  signature : Signature
  deriving DecidableEq, Repr

/-- The votes for a block; a validator that did not vote leaves a gap. -/
structure Commit where
  blockId : BlockId
  precommits : List (Option Vote)
  deriving DecidableEq, Repr

namespace Commit

/-- How many validators voted. -/
def signatureCount (commit : Commit) : Nat := (commit.precommits.filter Option.isSome).length

end Commit

structure Evidence where
  kind : String
  validator : Validator
  height : UInt64
  time : UInt64
  totalVotingPower : UInt64
  deriving DecidableEq, Repr

structure Block where
  header : Header
  lastCommit : Commit
  txs : List Bytes
  evidence : Option (List Evidence)
  deriving DecidableEq, Repr

/-- A block without its contents. -/
structure BlockMeta where
  blockId : BlockId
  header : Header
  deriving DecidableEq, Repr

/-- A block with its identifier. -/
structure IdentifiedBlock where
  blockMeta : BlockMeta
  block : Block
  deriving DecidableEq, Repr

/-- A range of blocks without their contents. -/
structure BlockRange where
  lastHeight : UInt64
  metas : List BlockMeta
  deriving DecidableEq, Repr

/-- A header with the commit for it. -/
structure SignedHeader where
  canonical : Bool
  header : Header
  commit : Commit
  deriving DecidableEq, Repr

/-- What the end of a block changed. -/
structure EndBlock where
  validatorUpdates : List Validator
  consensusUpdates : Option ConsensusParams
  tags : Option (List Tag)
  deriving DecidableEq, Repr

/-- What came of running a block. -/
structure BlockOutcome where
  height : UInt64
  txs : List TxOutcome
  endBlock : EndBlock
  deriving DecidableEq, Repr

end Tendermint
