import Tendermint.Chain.Node

/-!
# Tendermint.Cli.Print

The lines that the program prints for what it has found. Hashes and transactions are in
upper-case hexadecimal.
-/

namespace Tendermint.Cli

def flagText (flag : Bool) : String := if flag then "true" else "false"

def statusLines (status : Status) : List String := [
  "moniker:      " ++ status.node.moniker,
  "network:      " ++ status.node.network,
  "version:      " ++ status.node.version,
  "height:       " ++ toString status.sync.latestBlockHeight.toNat,
  "block time:   " ++ status.sync.latestBlockTime.display,
  "block hash:   " ++ Hex.encodeUpper status.sync.latestBlockHash,
  "catching up:  " ++ flagText status.sync.catchingUp,
  "voting power: " ++ toString status.validator.votingPower.toInt]

def headerLine (header : Header) : String :=
  "height " ++ toString header.height.toNat ++ " at " ++ header.time.display ++ " with " ++
    toString header.numTxs.toNat ++ " txs"

def blockLines (block : Block) : List String :=
  headerLine block.header ::
    ("  last commit signatures: " ++ toString block.lastCommit.signatureCount) ::
    block.txs.map fun tx => "  tx " ++ Hex.encodeUpper tx

/-- A transaction by its hash, its place and its code. -/
def txLine (hash : TxHash) (height : UInt64) (index code : UInt32) : String :=
  hash.text ++ " height " ++ toString height.toNat ++ " index " ++ toString index.toNat ++
    " code " ++ toString code.toNat

def recordLine (tx : TxRecord) : String := txLine tx.hash tx.height tx.index tx.outcome.code

def eventLine (tx : TxEvent) : String := txLine tx.hash tx.height tx.index tx.outcome.code

def proofLine (proof : TxProof) : String :=
  "  proof: index " ++ toString proof.index.toNat ++ " of " ++ toString proof.total.toNat ++
    ", root " ++ Hex.encodeUpper proof.rootHash

def recordLines (tx : TxRecord) : List String :=
  recordLine tx :: (tx.proof.map proofLine).toList

def matchesLines (found : TxMatches) : List String :=
  (toString found.txs.length ++ " of " ++ toString found.totalCount.toNat ++ " matches") ::
    found.txs.map recordLine

def submittedLine (submission : Submission) : String := "submitted " ++ submission.hash.text

def checkedLine (submission : Submission) : String :=
  submission.hash.text ++ " check code " ++ toString submission.outcome.code.toNat

def inclusionLine (inclusion : Inclusion) : String :=
  let outcome := if inclusion.succeeded then "committed" else "rejected"
  let place :=
    match inclusion.height with
    | some height => " at height " ++ toString height.toNat
    | none => ""
  inclusion.hash.text ++ " " ++ outcome ++ place

end Tendermint.Cli
