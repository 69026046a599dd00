import Tendermint.Chain.Tx

/-!
# Tendermint.Wire.Query

Queries over the tags of transactions and events: conditions joined by ` AND `.

* `Query.and`: joins two queries; the empty query says nothing.
* `TxFilter.query`: one condition for each part of a filter, in a fixed order.
* `EventKind.query`: the events of one kind.
-/

namespace Tendermint

/-- A query in the node's own language. -/
structure Query where
  text : String
  deriving DecidableEq, Repr

namespace Query

/-- What stands between two conditions. -/
def conjunction : String := " AND "

def empty : Query := ⟨""⟩

def isEmpty (query : Query) : Bool := query.text = ""

/-- Both queries; an empty one is dropped. -/
def and (left right : Query) : Query :=
  if left.isEmpty then right
  else if right.isEmpty then left
  else ⟨left.text ++ conjunction ++ right.text⟩

end Query

/-- A condition on one tag of the application. -/
structure TagCondition where
  key : String
  value : String
  deriving DecidableEq, Repr

/-- What transactions are asked for. Each part that is present is one condition. -/
structure TxFilter where
  tags : List TagCondition
  height : Option UInt64
  minHeight : Option UInt64
  maxHeight : Option UInt64
  hash : Option TxHash
  deriving DecidableEq, Repr

namespace TxFilter

def none : TxFilter := ⟨[], .none, .none, .none, .none⟩

def quotedCondition (key value : String) : String := key ++ "='" ++ value ++ "'"

def heightCondition (operator : String) (height : UInt64) : String :=
  "tx.height" ++ operator ++ toString height.toNat

/-- The conditions: tags as given, then height, least and greatest height, and hash. -/
def conditions (filter : TxFilter) : List String :=
  filter.tags.map (fun tag => quotedCondition tag.key tag.value) ++
    (filter.height.map (heightCondition "=")).toList ++
    (filter.minHeight.map (heightCondition ">")).toList ++
    (filter.maxHeight.map (heightCondition "<")).toList ++
    (filter.hash.map fun hash => quotedCondition "tx.hash" hash.text).toList

def query (filter : TxFilter) : Query := ⟨String.intercalate Query.conjunction filter.conditions⟩

end TxFilter

/-- The kinds of events that can be subscribed to. -/
inductive EventKind where
  | newBlock
  | newBlockHeader
  | tx
  deriving DecidableEq, Repr

namespace EventKind

def name : EventKind → String
  | .newBlock => "NewBlock"
  | .newBlockHeader => "NewBlockHeader"
  | .tx => "Tx"

def query (kind : EventKind) : Query := ⟨TxFilter.quotedCondition "tm.event" kind.name⟩

end EventKind

end Tendermint
