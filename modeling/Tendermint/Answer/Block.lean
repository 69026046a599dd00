import Tendermint.Answer.Tx
import Tendermint.Answer.Validator
import Tendermint.Chain.Block

/-!
# Tendermint.Answer.Block

How blocks are laid out on the wire. Hashes and addresses are in hexadecimal, transactions in
base64, and every integer may be a number or decimal text.
-/

namespace Tendermint

open Schema (field optionalField required optional listOf listOrEmpty present)

def BlockId.schema : Schema BlockId :=
  present "parts" *>
    (BlockId.mk
      <$> field "hash" .hex
      <*> required "parts" (PartSet.mk <$> field "total" .u64 <*> field "hash" .hex))

def Header.schema : Schema Header :=
  Header.mk
    <$> field "chain_id" .string
    <*> field "height" .u64
    <*> field "time" .time
    <*> field "num_txs" .u64
    <*> field "total_txs" .u64
    <*> required "last_block_id" BlockId.schema
    <*> field "app_hash" .hex
    <*> field "consensus_hash" .hex
    <*> field "data_hash" .hex
    <*> field "evidence_hash" .hex
    <*> field "last_commit_hash" .hex
    <*> field "last_results_hash" .hex
    <*> field "validators_hash" .hex

def Vote.schema : Schema Vote :=
  Vote.mk
    <$> field "type" .u32
    <*> field "validator_address" .hex
    <*> field "validator_index" .u64
    <*> field "height" .u64
    <*> field "round" .u64
    <*> field "timestamp" .time
    <*> required "block_id" BlockId.schema
    <*> required "signature" Signature.schema

def Commit.schema : Schema Commit :=
  (fun precommits blockId => Commit.mk blockId precommits)
    <$> required "precommits" (.gaps Vote.schema)
    <*> required "block_id" BlockId.schema

def Evidence.schema (dialect : Dialect) : Schema Evidence :=
  Evidence.mk
    <$> field "type" .string
    <*> required "validator" (Validator.memberSchema dialect)
    <*> field "height" .u64
    <*> field "time" .u64
    <*> field "totalVotingPower" .u64

/-- The data must be there before anything is read. -/
def Block.schema (dialect : Dialect) : Schema Block :=
  present "data" *>
    ((fun header lastCommit txs evidence => Block.mk header lastCommit txs evidence.join)
      <$> required "header" Header.schema
      <*> required "last_commit" Commit.schema
      <*> required "data" (listOrEmpty "txs" (.leaf .base64))
      <*> optional "evidence" (optional "evidence" (.items (Evidence.schema dialect))))

def BlockMeta.schema : Schema BlockMeta :=
  BlockMeta.mk <$> required "block_id" BlockId.schema <*> required "header" Header.schema

def IdentifiedBlock.schema (dialect : Dialect) : Schema IdentifiedBlock :=
  IdentifiedBlock.mk
    <$> required "block_meta" BlockMeta.schema
    <*> required "block" (Block.schema dialect)

def BlockRange.schema : Schema BlockRange :=
  BlockRange.mk <$> field "last_height" .u64 <*> listOf "block_metas" BlockMeta.schema

/-- The signed header must be there before anything is read. -/
def SignedHeader.schema : Schema SignedHeader :=
  present "signed_header" *>
    (SignedHeader.mk
      <$> field "canonical" .bool
      <*> required "signed_header" (required "header" Header.schema)
      <*> required "signed_header" (required "commit" Commit.schema))

def EndBlock.schema (dialect : Dialect) : Schema EndBlock :=
  EndBlock.mk
    <$> listOrEmpty "validator_updates" (Validator.updateSchema dialect)
    <*> optional "consensus_param_updates" ConsensusParams.schema
    <*> optional "tags" (.items Tag.schema)

/-- The results and the end of the block must be there before anything is read. -/
def BlockOutcome.schema (dialect : Dialect) : Schema BlockOutcome :=
  required "results" (present "EndBlock") *>
    (BlockOutcome.mk
      <$> field "height" .u64
      <*> required "results" (listOrEmpty "DeliverTx" TxOutcome.schema)
      <*> required "results" (required "EndBlock" (EndBlock.schema dialect)))

end Tendermint
