import Tendermint.Proofs.Schema.Loss
import Tendermint.Proofs.Answer.Structure

/-!
# Tendermint.Proofs.Answer.Layout

What the schemas of all answers and events have in common.

* `Answer.kept`, `Answer.kept_schema`: where an answer keeps a value whole.
* `Answer.regular`, `Announcement.regular`: the first reading of a member decides.
-/

namespace Tendermint

variable {α : Type} (version : Version)

/-- Where values are kept whole: the other settings of a node and the application's part of the
genesis document. -/
def Answer.kept {α : Type} : Answer α → List (List Turn)
  | .status => [[.member "node_info", .member "other"]]
  | .genesis => [[.member "genesis", .member "app_state"]]
  | _ => []

theorem Answer.kept_schema (answer : Answer α) : (answer.schema version).kept = answer.kept := by
  cases answer <;> cases version <;> rfl

/-- In every answer the first reading of a member decides. -/
theorem Answer.regular (answer : Answer α) : (answer.schema version).Regular where
  settled := by cases answer <;> cases version <;> repeat' constructor
  apart := by
    rw [Schema.Apart, kept_schema]
    cases answer <;> cases version <;> decide +kernel

namespace Announcement

variable (announcement : Announcement α)

/-- No event keeps a value whole. -/
theorem kept_payloadSchema : (announcement.payloadSchema version).kept = [] := by
  cases announcement <;> cases version <;> rfl

theorem regular : (announcement.payloadSchema version).Regular where
  settled := by cases announcement <;> cases version <;> repeat' constructor
  apart := by
    rw [Schema.Apart, kept_payloadSchema]
    rintro _ - _ ⟨⟩

/-- With its subject in the payload an event is read by the schema of the payload. -/
theorem read_of_subject_isSome {event : Event} (name : String)
    (here : (event.value.get? announcement.kind.subject).isSome) :
    announcement.read version event =
      (announcement.payloadSchema version).decode name event.value := by
  obtain ⟨subject, found⟩ := Option.isSome_iff_exists.1 here
  rw [read_eq, Event.announced, payloadSchema, Schema.decode_required, found]

theorem read_of_subject_eq_none {event : Event}
    (absent : event.value.get? announcement.kind.subject = none) :
    announcement.read version event =
      .error (.unexpectedEvent event.kind announcement.kind.subject) := by
  rw [read_eq, Event.announced, absent]

/-- An accepted event keeps its subject unless it is the subject that is lost. -/
theorem read_edit_of_ok {query : Option String} {kind : String} {value : Json} {a : α}
    {path : Json.Path} {key : String} {content : Option Json}
    (read : announcement.read version ⟨query, kind, value⟩ = .ok a)
    (stays : path = [] → key = announcement.kind.subject →
      (content.bind Json.unlessNull).isSome) :
    announcement.read version ⟨query, kind, value.edit path key content⟩ =
      (announcement.payloadSchema version).decode "value" (value.edit path key content) := by
  refine announcement.read_of_subject_isSome version "value" (Json.isSome_get?_edit _ _ _ _ _ ?_ stays)
  rw [Option.isSome_iff_ne_none]
  intro absent
  rw [read_of_subject_eq_none version announcement absent] at read
  cases read

end Announcement

end Tendermint
