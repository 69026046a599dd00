import Tendermint.Proofs.Answer.Endpoint
import Tendermint.Proofs.Schema.Decode
import Tendermint.Proofs.Schema.Lookup

/-!
# Tendermint.Proofs.Answer.Structure

What is no object is no structure. Wherever an accepted answer or event was searched for members
there stands an object, except for the few structures that have nothing but optional members: a
value of any other kind counts there as an object without members.

* `Answer.lenient`, `Announcement.lenient`: these few structures.
* `structures_are_objects`: all others are objects, and which answers to a transaction that was
  handed in count as a success.
* `failed_outcomes_count_as_success`: what becomes of an answer whose outcomes are no objects.
-/

namespace Tendermint

/-- The structures of an answer that have nothing but optional members. -/
def Answer.lenient {α : Type} : Answer α → List (List Turn)
  | .appInfo | .appQuery => [[.member "response"]]
  | .block => [[.member "block", .member "data"], [.member "block", .member "evidence"]]
  | .blockResults =>
    [[.member "results", .member "DeliverTx", .item], [.member "results", .member "EndBlock"]]
  | .submitCommit => [[.member "check_tx"], [.member "deliver_tx"]]
  | .tx => [[.member "tx_result"], [.member "proof", .member "Proof"]]
  | .txSearch =>
    [[.member "txs", .item, .member "tx_result"],
      [.member "txs", .item, .member "proof", .member "Proof"]]
  | _ => []

/-- The structures of an event that have nothing but optional members. -/
def Announcement.lenient {α : Type} : Announcement α → List (List Turn)
  | .block => [[.member "block", .member "data"], [.member "block", .member "evidence"]]
  | .header => []
  | .tx => [[.member "TxResult", .member "result"]]

namespace Announcement

variable {α : Type}

def payloadSchema (version : Version) (announcement : Announcement α) : Schema α :=
  .required announcement.kind.subject (announcement.schema version)

/-- What is read of an event is what is read of its payload; only a missing subject is another
error. -/
theorem read_eq_ok {version : Version} {announcement : Announcement α} {event : Event} {a : α}
    (name : String) :
    announcement.read version event = .ok a ↔
      (announcement.payloadSchema version).decode name event.value = .ok a := by
  rw [read_eq, Event.announced, payloadSchema, Schema.decode_required]
  cases event.value.get? announcement.kind.subject with
  | none => simp
  | some subject => rfl

theorem lenientPlaces_payloadSchema (version : Version) (announcement : Announcement α) :
    (announcement.payloadSchema version).lenientPlaces.eraseDups = announcement.lenient := by
  cases announcement <;> cases version <;> decide

end Announcement

theorem Answer.lenientPlaces_schema {α : Type} (version : Version) (answer : Answer α) :
    (answer.schema version).lenientPlaces.eraseDups = answer.lenient := by
  cases answer <;> cases version <;> decide

/-- An accepted outcome is a success where it says so or says nothing of its code. -/
theorem TxOutcome.succeeded_iff {name : String} {value : Json} {outcome : TxOutcome}
    (h : TxOutcome.schema.decode name value = .ok outcome) :
    outcome.succeeded = true ↔ ∀ code, value.get? "code" = some code → code.Denotes 0 := by
  simp only [schema, Schema.decode_seq_eq_ok, Schema.decode_map_eq_ok] at h
  obtain ⟨_, ⟨_, ⟨_, ⟨code, read, rfl⟩, log, -, rfl⟩, data, -, rfl⟩, tags, -, rfl⟩ := h
  rw [succeeded, beq_iff_eq]
  rw [Schema.defaulted, Schema.decode_map_eq_ok, Schema.decode_optional] at read
  obtain ⟨found, read, rfl⟩ := read
  cases present : value.get? "code" with
  | none =>
    rw [present] at read
    cases read
    simp
  | some v =>
    rw [present, Schema.optionally_some, Schema.decode_leaf, Leaf.read] at read
    cases readCode : Leaf.readU32 "code" v with
    | error e =>
      rw [readCode] at read
      cases read
    | ok code =>
      rw [readCode] at read
      cases read
      simp only [Option.getD_some, Option.some.injEq, forall_eq', ← @Leaf.readU32_eq_zero "code",
        readCode, Except.ok.injEq]

theorem Inclusion.outcomes_of_decode {name : String} {value : Json} {inclusion : Inclusion}
    (h : Inclusion.schema.decode name value = .ok inclusion) :
    (∃ check, value.get? "check_tx" = some check ∧
      TxOutcome.schema.decode "check_tx" check = .ok inclusion.check) ∧
    Schema.optionally (TxOutcome.schema.decode "deliver_tx") (value.get? "deliver_tx") =
      .ok inclusion.delivery := by
  simp only [schema, Schema.decode_seq_eq_ok, Schema.decode_map_eq_ok,
    Schema.decode_required_eq_ok, Schema.decode_optional] at h
  obtain ⟨_, ⟨_, ⟨_, ⟨height, -, rfl⟩, hash, -, rfl⟩, check, readCheck, rfl⟩, delivery,
    readDelivery, rfl⟩ := h
  exact ⟨readCheck, readDelivery⟩

/-- An accepted answer is a success where both outcomes are there and neither says that it
failed. -/
theorem Inclusion.succeeded_iff {name : String} {value : Json} {inclusion : Inclusion}
    (h : Inclusion.schema.decode name value = .ok inclusion) :
    inclusion.succeeded = true ↔
      ∃ check delivery, value.get? "check_tx" = some check ∧
        value.get? "deliver_tx" = some delivery ∧
        ∀ outcome ∈ [check, delivery], ∀ code, outcome.get? "code" = some code →
          code.Denotes 0 := by
  obtain ⟨⟨check, foundCheck, readCheck⟩, readDelivery⟩ := outcomes_of_decode h
  rw [succeeded, Bool.and_eq_true, TxOutcome.succeeded_iff readCheck]
  cases foundDelivery : value.get? "deliver_tx" with
  | none =>
    rw [foundDelivery, Schema.optionally_none, Except.ok.injEq] at readDelivery
    simp [← readDelivery]
  | some delivery =>
    rw [foundDelivery, Schema.optionally_some] at readDelivery
    cases readOutcome : TxOutcome.schema.decode "deliver_tx" delivery with
    | error e =>
      rw [readOutcome] at readDelivery
      cases readDelivery
    | ok outcome =>
      rw [readOutcome] at readDelivery
      have held : some outcome = inclusion.delivery := Except.ok.inj readDelivery
      simp [← held, TxOutcome.succeeded_iff readOutcome, foundCheck]

/-- Whatever is accepted of an answer or an event, in both versions: wherever members were looked
for there stands an object, except for the few structures that have nothing but optional members.
An answer to a transaction that was followed up to its block is a success only if both outcomes
are there and what they say of their codes is zero. -/
theorem structures_are_objects (version : Version) (value : Json) :
    (∀ (α : Type) (answer : Answer α) (a : α), answer.read version value = .ok a →
      ∃ lookups, (answer.schema version).decodeNoting "result" value = .ok (a, lookups) ∧
        ∀ l ∈ lookups, Json.At l.place value l.value ∧
          (l.value.isObject = true ∨ l.place ∈ answer.lenient)) ∧
    (∀ (α : Type) (announcement : Announcement α) (a : α) (query : Option String) (kind : String),
      announcement.read version ⟨query, kind, value⟩ = .ok a →
      ∃ lookups,
        (announcement.payloadSchema version).decodeNoting "value" value = .ok (a, lookups) ∧
        ∀ l ∈ lookups, Json.At l.place value l.value ∧
          (l.value.isObject = true ∨ l.place ∈ announcement.lenient)) ∧
    (∀ inclusion, Answer.submitCommit.read version value = .ok inclusion →
      (inclusion.succeeded = true ↔
        ∃ check delivery, value.get? "check_tx" = some check ∧
          value.get? "deliver_tx" = some delivery ∧
          ∀ outcome ∈ [check, delivery], ∀ code, outcome.get? "code" = some code →
            code.Denotes 0)) := by
  refine ⟨?_, ?_, fun inclusion read => Inclusion.succeeded_iff read⟩
  · intro α answer a read
    rw [← answer.lenientPlaces_schema version]
    simpa only [List.mem_eraseDups] using Schema.noted_of_decode read
  · intro α announcement a query kind read
    rw [← announcement.lenientPlaces_payloadSchema version]
    simpa only [List.mem_eraseDups] using
      Schema.noted_of_decode ((Announcement.read_eq_ok "value").1 read)

section Outcomes

/-- An answer with the check, the delivery and the hash of a transaction. -/
def Inclusion.answer (check delivery : Json) : Json :=
  .ofMembers [("hash", .string "00"), ("check_tx", check), ("deliver_tx", delivery)]

def TxEvent.emptyPayload : Json :=
  .ofMembers [("TxResult", .ofMembers [("tx", .string ""), ("result", .object []),
    ("height", .string "1"), ("index", .string "0")])]

/-- An answer without codes is a success, and the lookups in it and in an event are in objects. -/
theorem silent_outcomes_succeed :
    ∃ inclusion, Answer.submitCommit.read .v0_25 (Inclusion.answer (.object []) (.object [])) =
        .ok inclusion ∧ inclusion.succeeded = true ∧
      (∃ lookups, (Answer.submitCommit.schema .v0_25).decodeNoting "result"
          (Inclusion.answer (.object []) (.object [])) = .ok (inclusion, lookups) ∧
        ∀ l ∈ lookups, l.value.isObject = true ∨ l.place ∈ Answer.submitCommit.lenient) ∧
      ∃ event lookups, (Announcement.tx.payloadSchema .v0_25).decodeNoting "value"
          TxEvent.emptyPayload = .ok (event, lookups) ∧
        ∀ l ∈ lookups, l.value.isObject = true ∨ l.place ∈ Announcement.tx.lenient := by
  have read : Answer.submitCommit.read .v0_25 (Inclusion.answer (.object []) (.object [])) =
      .ok ⟨none, ⟨[0]⟩, ⟨0, none, none, none⟩, some ⟨0, none, none, none⟩⟩ := rfl
  have announced : Announcement.tx.read .v0_25 ⟨none, "tendermint/event/Tx", TxEvent.emptyPayload⟩ =
      .ok ⟨[], Version.v0_25.hashTx [], ⟨0, none, none, none⟩, 1, 0⟩ := rfl
  obtain ⟨answers, -, succeeds⟩ :=
    structures_are_objects .v0_25 (Inclusion.answer (.object []) (.object []))
  obtain ⟨lookups, noted, objects⟩ := answers _ .submitCommit _ read
  obtain ⟨-, events, -⟩ := structures_are_objects .v0_25 TxEvent.emptyPayload
  obtain ⟨eventLookups, eventNoted, eventObjects⟩ := events _ .tx _ _ _ announced
  refine ⟨_, read, (succeeds _ read).2 ⟨.object [], .object [], rfl, rfl, ?_⟩,
    ⟨lookups, noted, fun l hl => (objects l hl).2⟩, _, eventLookups, eventNoted,
    fun l hl => (eventObjects l hl).2⟩
  simp [Json.get?, Json.member?, Json.members, Json.Members.lookup]

/-- An answer whose outcomes are texts is accepted and counts as a success: the codes were looked
for in texts, where there are none. -/
theorem failed_outcomes_count_as_success :
    ∃ inclusion lookups,
      Answer.submitCommit.read .v0_25 (Inclusion.answer (.string "failed") (.string "failed")) =
        .ok inclusion ∧ inclusion.succeeded = true ∧
      (Answer.submitCommit.schema .v0_25).decodeNoting "result"
        (Inclusion.answer (.string "failed") (.string "failed")) = .ok (inclusion, lookups) ∧
      ⟨[.member "check_tx"], .string "failed"⟩ ∈ lookups ∧
      ⟨[.member "deliver_tx"], .string "failed"⟩ ∈ lookups :=
  ⟨_, _, rfl, rfl, rfl, by decide, by decide⟩

end Outcomes

end Tendermint
