import Tendermint.Json.Basic
import Tendermint.Chain.Block

/-!
# Tendermint.Chain.Node

What a node says of itself, of its application and of the start of its chain.
-/

namespace Tendermint

structure NodeInfo where
  id : Bytes
  listenAddress : String
  network : String
  version : String
  channels : String
  moniker : String
  /-- Other settings in key order, with distinct keys. -/
  other : List (String × String)
  deriving DecidableEq, Repr

structure SyncInfo where
  latestBlockHash : Bytes
  latestAppHash : Bytes
  latestBlockHeight : UInt64
  latestBlockTime : Timestamp
  catchingUp : Bool
  deriving DecidableEq, Repr

structure Status where
  node : NodeInfo
  sync : SyncInfo
  validator : Validator
  deriving DecidableEq, Repr

/-- The start of a chain; the application's own part stays as JSON. -/
structure Genesis where
  time : Timestamp
  chainId : String
  consensusParams : ConsensusParams
  validators : List Validator
  appHash : Bytes
  appState : Option Json
  deriving DecidableEq, Repr

/-- The validators at a height. -/
structure ValidatorSet where
  height : UInt64
  validators : List Validator
  deriving DecidableEq, Repr

/-- What the application says of itself. -/
structure AppInfo where
  data : Option String
  lastBlockHeight : Option UInt64
  lastBlockAppHash : Option Bytes
  deriving DecidableEq, Repr

/-- The application's answer to a query. -/
structure AppAnswer where
  key : Bytes
  value : Bytes
  height : Option UInt64
  index : Option UInt64
  code : Option UInt32
  log : Option String
  deriving DecidableEq, Repr

end Tendermint
