import Tendermint.Schema.Basic
import Tendermint.Chain.Version

/-!
# Tendermint.Answer.Tx

How answers about transactions are laid out on the wire. Transactions, data and tags are in
base64; hashes are in hexadecimal.
-/

namespace Tendermint

open Schema (field optionalField required optional defaulted listOf listOrEmpty present)

def TxHash.schema (name : String) : Schema TxHash := TxHash.mk <$> field name .hex

def Tag.schema : Schema Tag := Tag.mk <$> field "key" .base64 <*> field "value" .base64

/-- A missing code is zero. -/
def TxOutcome.schema : Schema TxOutcome :=
  TxOutcome.mk
    <$> defaulted "code" 0 (.leaf .u32)
    <*> optionalField "log" .string
    <*> optionalField "data" .base64
    <*> optional "tags" (.items Tag.schema)

/-- A counter of a proof, at the place where the layout has it. -/
def TxProof.counterSchema (layout : ProofLayout) (inner outer : String) : Schema UInt64 :=
  match layout with
  | .beside => field outer .u64
  | .inside => .orElse (required "Proof" (optionalField inner .u64)) (field outer .u64)

/-- The inner proof must be there before anything is read. The node sends no aunts for a tree
of one leaf. -/
def TxProof.schema (dialect : Dialect) : Schema TxProof :=
  present "Proof" *>
    ((fun total index data rootHash aunts => TxProof.mk data rootHash total index aunts)
      <$> TxProof.counterSchema dialect.proofLayout "total" "Total"
      <*> TxProof.counterSchema dialect.proofLayout "index" "Index"
      <*> field "Data" .base64
      <*> field "RootHash" .hex
      <*> required "Proof" (listOrEmpty "aunts" (.leaf .base64)))

def TxRecord.schema (dialect : Dialect) : Schema TxRecord :=
  TxRecord.mk
    <$> field "tx" .base64
    <*> required "tx_result" TxOutcome.schema
    <*> field "height" .u64
    <*> field "index" .u32
    <*> TxHash.schema "hash"
    <*> optional "proof" (TxProof.schema dialect)

def TxMatches.schema (dialect : Dialect) : Schema TxMatches :=
  TxMatches.mk <$> field "total_count" .u64 <*> listOf "txs" (TxRecord.schema dialect)

def Submission.schema : Schema Submission :=
  Submission.mk <$> TxOutcome.schema <*> TxHash.schema "hash"

def Inclusion.schema : Schema Inclusion :=
  Inclusion.mk
    <$> optionalField "height" .u64
    <*> TxHash.schema "hash"
    <*> required "check_tx" TxOutcome.schema
    <*> optional "deliver_tx" TxOutcome.schema

/-- The node does not send the hash of an announced transaction. -/
def TxEvent.schema (hashTx : Bytes → TxHash) : Schema TxEvent :=
  (fun tx outcome height index => TxEvent.mk tx (hashTx tx) outcome height index)
    <$> field "tx" .base64
    <*> required "result" TxOutcome.schema
    <*> field "height" .u64
    <*> field "index" .u32

end Tendermint
