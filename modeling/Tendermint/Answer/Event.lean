import Tendermint.Answer.Block
import Tendermint.Wire.Event
import Tendermint.Wire.Query

/-!
# Tendermint.Answer.Event

What the events of each kind announce. A kind of event keeps its subject in one member of the
payload; an event without it is unexpected, whatever else the payload holds.
-/

namespace Tendermint

/-- The member of the payload that holds what a kind of event announces. -/
def EventKind.subject : EventKind → String
  | .newBlock => "block"
  | .newBlockHeader => "header"
  | .tx => "TxResult"

namespace Event

/-- Reads the subject of an event by a schema. -/
def announced {α : Type} (kind : EventKind) (schema : Schema α) (event : Event) :
    Except DecodeError α :=
  match event.value.get? kind.subject with
  | none => .error (.unexpectedEvent event.kind kind.subject)
  | some subject => schema.decode kind.subject subject

/-- The new block. -/
def block (version : Version) (event : Event) : Except DecodeError Block :=
  event.announced .newBlock (Block.schema version.dialect)

/-- The header of the new block. -/
def header (event : Event) : Except DecodeError Header :=
  event.announced .newBlockHeader Header.schema

/-- The committed transaction, with its hash. -/
def tx (version : Version) (event : Event) : Except DecodeError TxEvent :=
  event.announced .tx (TxEvent.schema version.hashTx)

end Event

end Tendermint
