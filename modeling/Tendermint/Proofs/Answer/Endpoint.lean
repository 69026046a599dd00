import Tendermint.Answer.Event
import Tendermint.Answer.Node

/-!
# Tendermint.Proofs.Answer.Endpoint

All that a node is asked for and all that it announces, each with the type of what is read. What
holds of every answer is stated over these.

* `Answer`, `Answer.read`.
* `Announcement`, `Announcement.read`.
-/

namespace Tendermint

/-- What a node is asked for. -/
inductive Answer : Type → Type where
  | health : Answer Unit
  | status : Answer Status
  | appInfo : Answer AppInfo
  | appQuery : Answer AppAnswer
  | block : Answer IdentifiedBlock
  | blockResults : Answer BlockOutcome
  | blockchain : Answer BlockRange
  | commit : Answer SignedHeader
  | genesis : Answer Genesis
  | validators : Answer ValidatorSet
  | submit : Answer Submission
  | submitAsync : Answer Submission
  | submitCommit : Answer Inclusion
  | tx : Answer TxRecord
  | txSearch : Answer TxMatches

namespace Answer

/-- How a protocol version lays an answer out. -/
def schema {α : Type} (version : Version) : Answer α → Schema α
  | .health => .const ()
  | .status => Status.schema version.dialect
  | .appInfo => AppInfo.schema
  | .appQuery => AppAnswer.schema
  | .block => IdentifiedBlock.schema version.dialect
  | .blockResults => BlockOutcome.schema version.dialect
  | .blockchain => BlockRange.schema
  | .commit => SignedHeader.schema
  | .genesis => Genesis.schema version.dialect
  | .validators => ValidatorSet.schema version.dialect
  | .submit => Submission.schema
  | .submitAsync => Submission.schema
  | .submitCommit => Inclusion.schema
  | .tx => TxRecord.schema version.dialect
  | .txSearch => TxMatches.schema version.dialect

def read {α : Type} (version : Version) (answer : Answer α) (value : Json) :
    Except DecodeError α :=
  (answer.schema version).read value

end Answer

/-- What a node announces. -/
inductive Announcement : Type → Type where
  | block : Announcement Block
  | header : Announcement Header
  | tx : Announcement TxEvent

namespace Announcement

def kind {α : Type} : Announcement α → EventKind
  | .block => .newBlock
  | .header => .newBlockHeader
  | .tx => .tx

/-- How a protocol version lays out what an event announces. -/
def schema {α : Type} (version : Version) : Announcement α → Schema α
  | .block => Block.schema version.dialect
  | .header => Header.schema
  | .tx => TxEvent.schema version.hashTx

def read {α : Type} (version : Version) : Announcement α → Event → Except DecodeError α
  | .block, event => event.block version
  | .header, event => event.header
  | .tx, event => event.tx version

variable {α : Type} (version : Version) (announcement : Announcement α) {event : Event}

theorem read_eq (event : Event) :
    announcement.read version event =
      event.announced announcement.kind (announcement.schema version) := by
  cases announcement <;> rfl

/-- An event with its subject in the payload announces what is read of the subject. -/
theorem read_of_subject {subject : Json} {a : α}
    (found : event.value.get? announcement.kind.subject = some subject)
    (decoded : (announcement.schema version).decode announcement.kind.subject subject = .ok a) :
    announcement.read version event = .ok a := by
  rw [read_eq, Event.announced, found]
  exact decoded

end Announcement

end Tendermint
