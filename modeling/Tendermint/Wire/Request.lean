import Tendermint.Text.Base64
import Tendermint.Chain.Version
import Tendermint.Wire.Query
import Tendermint.Wire.RequestId

/-!
# Tendermint.Wire.Request

Requests to a node: the methods that it knows and the parameters that each one takes. Heights
travel as decimal text, transactions and hashes in base64, the data of a query in hexadecimal.
-/

namespace Tendermint

/-- The methods of a node. -/
inductive Method where
  | health
  | status
  | abciInfo
  | abciQuery
  | block
  | blockchain
  | blockResults
  | commit
  | genesis
  | validators
  | broadcastTxSync
  | broadcastTxAsync
  | broadcastTxCommit
  | tx
  | txSearch
  | subscribe
  | unsubscribe
  deriving DecidableEq, Repr

def Method.name : Method → String
  | .health => "health"
  | .status => "status"
  | .abciInfo => "abci_info"
  | .abciQuery => "abci_query"
  | .block => "block"
  | .blockchain => "blockchain"
  | .blockResults => "block_results"
  | .commit => "commit"
  | .genesis => "genesis"
  | .validators => "validators"
  | .broadcastTxSync => "broadcast_tx_sync"
  | .broadcastTxAsync => "broadcast_tx_async"
  | .broadcastTxCommit => "broadcast_tx_commit"
  | .tx => "tx"
  | .txSearch => "tx_search"
  | .subscribe => "subscribe"
  | .unsubscribe => "unsubscribe"

/-- The parameters of a request, in key order. -/
abbrev Params := Json.Members

/-- A request. -/
structure Request where
  id : RequestId
  method : String
  params : Params
  deriving DecidableEq, Repr

namespace Request

/-- The members of a request in the order in which they are sent. -/
def members (request : Request) : List (String × Json) :=
  [("jsonrpc", .string "2.0"), ("id", request.id.toJson), ("method", .string request.method),
    ("params", .object request.params)]

/-- The text that is sent. -/
def wire (request : Request) : String :=
  "\x7b" ++ Json.compactMembers request.members ++ "\x7d"

/-- The query among the parameters. -/
def query? (request : Request) : Option String :=
  match request.params.lookup "query" with
  | some (.string query) => some query
  | _ => none

end Request

/-- A query to the application. -/
structure AppQuery where
  path : String
  data : Bytes
  height : Option UInt64
  prove : Bool
  deriving DecidableEq, Repr

/-- A search for transactions. -/
structure TxSearch where
  query : Query
  prove : Bool
  page : Option UInt32
  perPage : Option UInt32
  deriving DecidableEq, Repr

namespace Params

def none : Params := []

/-- A height on the wire. -/
def heightValue (height : UInt64) : Json := .string (toString height.toNat)

/-- A member that is left out when there is no value. -/
def given {α : Type} (key : String) (value : Option α) (write : α → Json) : List (String × Json) :=
  match value with
  | .none => []
  | some a => [(key, write a)]

def height (height : Option UInt64) : Params :=
  Json.Members.ofList (given "height" height heightValue)

def heightRange (least greatest : Option UInt64) : Params :=
  Json.Members.ofList
    (given "minHeight" least heightValue ++ given "maxHeight" greatest heightValue)

def transaction (tx : Bytes) : Params := [("tx", .string (Base64.encode tx))]

/-- How a protocol version asks for a proof; `trusted` means that none is wanted. -/
def proveMember (flag : ProveFlag) (prove : Bool) : String × Json :=
  match flag with
  | .trusted => ("trusted", .bool (!prove))
  | .prove => ("prove", .bool prove)

def appQuery (flag : ProveFlag) (query : AppQuery) : Params :=
  Json.Members.ofList
    ([("path", .string query.path), ("data", .string (Hex.encode query.data))] ++
      given "height" query.height heightValue ++ [proveMember flag query.prove])

def txHash (hash : TxHash) (prove : Bool) : Params :=
  Json.Members.ofList [("hash", .string (Base64.encode hash.bytes)), ("prove", .bool prove)]

def txSearch (search : TxSearch) : Params :=
  Json.Members.ofList
    ([("query", .string search.query.text), ("prove", .bool search.prove)] ++
      given "page" search.page (fun n => .nat n.toNat) ++
      given "per_page" search.perPage (fun n => .nat n.toNat))

def subscription (query : Query) : Params := [("query", .string query.text)]

end Params

end Tendermint
