import Tendermint.Answer.Node
import Tendermint.Client.Exchange

/-!
# Tendermint.Client.Calls

The calls of a client that is bound to a protocol version, each one request and one answer.

* `Version.detect`, `Version.parse`: a version, or the text that names none.
* `Client.detect`: asks a node for its version and binds the client to it.
-/

namespace Tendermint

namespace Version

/-- A version that was found in a text, or else the text as it stands. -/
def orUnsupported (text : String) (found : Option Version) : Except ClientError Version :=
  match found with
  | none => .error (.unsupportedVersion text)
  | some version => .ok version

/-- The version of the node that reports this version text. -/
def detect (text : String) : Except ClientError Version := orUnsupported text (detect? text)

/-- The version that somebody names, by its short name or as a node does. -/
def parse (text : String) : Except ClientError Version := orUnsupported text (ofText? text)

end Version

/-- A client bound to a protocol version. -/
structure Client where
  version : Version
  deriving DecidableEq, Repr

/-- What a call comes to. -/
abbrev Call (α : Type) := Exchange (Except ClientError α)

/-- A call whose result is worked on further. -/
def Call.map {α β : Type} (f : α → β) (call : Call α) : Call β :=
  Exchange.bind call fun found => .done (found.map f)

namespace Client

def dialect (client : Client) : Dialect := client.version.dialect

/-- The version text in the answer to `status`. Nothing else of the answer is looked at. -/
def versionText? (status : Json) : Option String :=
  match (status.member? "node_info").bind (·.member? "version") with
  | some (.string text) => some text
  | _ => none

/-- The client for the node with this answer to `status`. -/
def ofStatus (status : Json) : Except ClientError Client :=
  match versionText? status with
  | none => .error (.decode (.missingField "node_info.version"))
  | some text => (Version.detect text).map Client.mk

def detect : Call Client :=
  .call .status Params.none fun
    | .error e => .done (.error (.rpc e))
    | .ok status => .done (ofStatus status)

/-- A node that answers at all is healthy. -/
def health (_ : Client) : Call Unit := .ask .health Params.none (.const ())

def status (client : Client) : Call Status :=
  .ask .status Params.none (Status.schema client.dialect)

def appInfo (_ : Client) : Call AppInfo := .ask .abciInfo Params.none AppInfo.schema

def appQuery (client : Client) (query : AppQuery) : Call AppAnswer :=
  .ask .abciQuery (Params.appQuery client.dialect.proveFlag query) AppAnswer.schema

/-- The block at a height, or else the latest. -/
def block (client : Client) (height : Option UInt64) : Call IdentifiedBlock :=
  .ask .block (Params.height height) (IdentifiedBlock.schema client.dialect)

def blockRange (_ : Client) (least greatest : Option UInt64) : Call BlockRange :=
  .ask .blockchain (Params.heightRange least greatest) BlockRange.schema

def blockOutcome (client : Client) (height : Option UInt64) : Call BlockOutcome :=
  .ask .blockResults (Params.height height) (BlockOutcome.schema client.dialect)

def commit (_ : Client) (height : Option UInt64) : Call SignedHeader :=
  .ask .commit (Params.height height) SignedHeader.schema

def genesis (client : Client) : Call Genesis :=
  .ask .genesis Params.none (Genesis.schema client.dialect)

def validators (client : Client) (height : Option UInt64) : Call ValidatorSet :=
  .ask .validators (Params.height height) (ValidatorSet.schema client.dialect)

/-- Hands in a transaction and waits for its check. -/
def submit (_ : Client) (tx : Bytes) : Call Submission :=
  .ask .broadcastTxSync (Params.transaction tx) Submission.schema

/-- Hands in a transaction and waits for nothing. -/
def submitAsync (_ : Client) (tx : Bytes) : Call Submission :=
  .ask .broadcastTxAsync (Params.transaction tx) Submission.schema

/-- Hands in a transaction and waits for its block. -/
def submitCommit (_ : Client) (tx : Bytes) : Call Inclusion :=
  .ask .broadcastTxCommit (Params.transaction tx) Inclusion.schema

def tx (client : Client) (hash : TxHash) (prove : Bool) : Call TxRecord :=
  .ask .tx (Params.txHash hash prove) (TxRecord.schema client.dialect)

/-- One page of a search. -/
def search (client : Client) (search : TxSearch) : Call TxMatches :=
  .ask .txSearch (Params.txSearch search) (TxMatches.schema client.dialect)

end Client

end Tendermint
