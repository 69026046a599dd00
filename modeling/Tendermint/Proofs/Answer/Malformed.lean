import Tendermint.Proofs.Schema.Refusal
import Tendermint.Proofs.Answer.Layout

/-!
# Tendermint.Proofs.Answer.Malformed

Malformed leaves are loud. A leaf that is not in the encoding of its field fails the whole answer
or event, wherever it stands: it is neither taken for absent, nor left out of a list, nor passed
over for another spelling.

* `malformed_leaves_are_refused`.
-/

namespace Tendermint

/-- Whatever is accepted of an answer or an event, in both versions: when a leaf or a list that is
read anywhere in it gets a value that it does not admit, or when an item of a list does, the whole
fails. The error is that of an invalid field with the name of the member; only the type of a key
that is not known is an error of its own. -/
theorem malformed_leaves_are_refused (version : Version) (value bad : Json) (shown : bad ≠ .null) :
    (∀ (α : Type) (answer : Answer α) (a : α) (path : Json.Path) (key : String) (old : Json)
      (access : Access), answer.read version value = .ok a →
      (answer.schema version).access "result" value path key = some access →
      value.find? (path ++ [.member key]) = some old → access.reader.Refuses bad →
      ∃ e, answer.read version (value.edit path key (some bad)) = .error e ∧
        access.reader.Blames key bad e) ∧
    (∀ (α : Type) (announcement : Announcement α) (query : Option String) (kind : String) (a : α)
      (path : Json.Path) (key : String) (old : Json) (access : Access),
      announcement.read version ⟨query, kind, value⟩ = .ok a →
      (announcement.payloadSchema version).access "value" value path key = some access →
      value.find? (path ++ [.member key]) = some old → access.reader.Refuses bad →
      ∃ e, announcement.read version ⟨query, kind, value.edit path key (some bad)⟩ = .error e ∧
        access.reader.Blames key bad e) := by
  refine ⟨fun α answer a path key old access read looked found refuses => ?_,
    fun α announcement query kind a path key old access read looked found refuses => ?_⟩
  · exact Schema.decode_edit_of_refuses (answer.regular version) read looked found shown refuses
  · rw [announcement.read_edit_of_ok version read fun _ _ => by
      rw [Option.bind_some, Json.unlessNull_of_ne shown]
      rfl]
    exact Schema.decode_edit_of_refuses (announcement.regular version)
      ((Announcement.read_eq_ok "value").1 read) looked found shown refuses

section Sample

/-- An answer whose check has a log. -/
def Inclusion.loggedAnswer : Json :=
  answer (.ofMembers [("log", .string "fine")]) (.object [])

/-- A log that is no text, and the height of an event that is no integer. -/
theorem malformed_transactions_are_refused :
    (∃ reason, Answer.submitCommit.read .v0_25
        (Inclusion.loggedAnswer.edit [.member "check_tx"] "log" (some (.bool true))) =
      .error (.invalidField "log" reason)) ∧
    ∃ reason, Announcement.tx.read .v0_25
        ⟨none, "tendermint/event/Tx",
          TxEvent.emptyPayload.edit [.member "TxResult"] "height" (some (.bool true))⟩ =
      .error (.invalidField "height" reason) := by
  have refuse (value : Json) := malformed_leaves_are_refused .v0_25 value (.bool true) (by decide)
  constructor
  · have read : Answer.submitCommit.read .v0_25 Inclusion.loggedAnswer =
        .ok ⟨none, ⟨[0]⟩, ⟨0, some "fine", none, none⟩, some ⟨0, none, none, none⟩⟩ := rfl
    have looked : (Answer.submitCommit.schema .v0_25).access "result" Inclusion.loggedAnswer
        [.member "check_tx"] "log" = some ⟨.optional, .leaf .string⟩ := rfl
    have found : Inclusion.loggedAnswer.find? [.member "check_tx", .member "log"] =
        some (.string "fine") := rfl
    obtain ⟨e, error, reason, rfl⟩ := (refuse _).1 _ _ _ _ _ _ _ read looked found
      (by rintro ⟨_, ⟨⟩⟩)
    exact ⟨reason, error⟩
  · have read : Announcement.tx.read .v0_25 ⟨none, "tendermint/event/Tx", TxEvent.emptyPayload⟩ =
        .ok ⟨[], Version.v0_25.hashTx [], ⟨0, none, none, none⟩, 1, 0⟩ := rfl
    have looked : (Announcement.tx.payloadSchema .v0_25).access "value" TxEvent.emptyPayload
        [.member "TxResult"] "height" = some ⟨.required ["height"], .leaf .u64⟩ := rfl
    have found : TxEvent.emptyPayload.find? [.member "TxResult", .member "height"] =
        some (.string "1") := rfl
    obtain ⟨e, error, reason, rfl⟩ := (refuse _).2 _ _ _ _ _ _ _ _ _ read looked found
      (by rintro ⟨_, ⟨⟨⟩⟩ | ⟨_, ⟨⟩, -⟩, -⟩)
    exact ⟨reason, error⟩

end Sample

end Tendermint
