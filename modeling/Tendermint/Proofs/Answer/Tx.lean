import Tendermint.Proofs.Answer.Endpoint
import Tendermint.Proofs.Answer.Spelling

/-!
# Tendermint.Proofs.Answer.Tx

Answers about transactions as a node writes them, and what is read of them.

* `transactions_round_trip`: every answer about transactions is read back as it was, in both
  versions and however the node spells it, and so is every announced transaction whose hash is
  the one that the version computes.
-/

namespace Tendermint

open Json (base64 decimal ofFields)

variable {dialect : Dialect} (spelling : Spelling dialect)

def Tag.write (tag : Tag) : Json :=
  ofFields [("key", base64 tag.key), ("value", base64 tag.value)]

/-- The fields of an outcome, which may stand among others. -/
def TxOutcome.fields (outcome : TxOutcome) : List (String × Option Json) :=
  [("code", if spelling.zeroLeftOut ∧ outcome.code = 0 then none else decimal outcome.code.toNat),
    ("log", outcome.log.map .string),
    ("data", outcome.data.map base64),
    ("tags", outcome.tags.map fun tags => .array (tags.map Tag.write))]

def TxOutcome.write (outcome : TxOutcome) : Json := ofFields (outcome.fields spelling)

/-- The two counters, under the names that they have at their place. -/
def TxProof.counters (proof : TxProof) (total index : String) : List (String × Option Json) :=
  [(total, decimal proof.total.toNat), (index, decimal proof.index.toNat)]

def TxProof.write (proof : TxProof) : Json :=
  let aunts := ("aunts", some (spelling.list base64 proof.aunts))
  let data := ("Data", some (base64 proof.data))
  let root := ("RootHash", some (spelling.hex proof.rootHash))
  match dialect.proofLayout with
  | .beside =>
    ofFields (("Proof", ofFields [aunts]) :: data :: root :: proof.counters "Total" "Index")
  | .inside =>
    ofFields [("Proof", ofFields (aunts :: proof.counters "total" "index")), data, root]

def TxRecord.write (record : TxRecord) : Json :=
  ofFields [("tx", base64 record.tx), ("tx_result", record.outcome.write spelling),
    ("height", decimal record.height.toNat), ("index", decimal record.index.toNat),
    ("hash", spelling.hex record.hash.bytes), ("proof", record.proof.map (TxProof.write spelling))]

def TxMatches.write (found : TxMatches) : Json :=
  ofFields [("total_count", decimal found.totalCount.toNat),
    ("txs", Json.array (found.txs.map (TxRecord.write spelling)))]

def Submission.write (submission : Submission) : Json :=
  ofFields (("hash", spelling.hex submission.hash.bytes) :: submission.outcome.fields spelling)

def Inclusion.write (inclusion : Inclusion) : Json :=
  ofFields [("height", inclusion.height.map fun height => decimal height.toNat),
    ("hash", spelling.hex inclusion.hash.bytes), ("check_tx", inclusion.check.write spelling),
    ("deliver_tx", inclusion.delivery.map (TxOutcome.write spelling))]

/-- The hash is not written. -/
def TxEvent.write (event : TxEvent) : Json :=
  ofFields [("tx", base64 event.tx), ("result", event.outcome.write spelling),
    ("height", decimal event.height.toNat), ("index", decimal event.index.toNat)]

def TxEvent.payload (event : TxEvent) : Json := ofFields [("TxResult", event.write spelling)]

section Reading

variable (name : String)

theorem Tag.decode_write (tag : Tag) : Tag.schema.decode name tag.write = .ok tag := by
  simp [schema, write]

/-- The names under which the parts of an outcome are looked up. -/
def TxOutcome.names : List String := ["code", "log", "data", "tags"]

/-- An outcome is read alike from every value that has the members of its written form. -/
theorem TxOutcome.decode_of_get? (outcome : TxOutcome) {value : Json}
    (same : ∀ key ∈ names, value.get? key = (outcome.write spelling).get? key) :
    TxOutcome.schema.decode name value = .ok outcome := by
  have code : (Schema.defaulted "code" 0 (.leaf .u32)).decode name value = .ok outcome.code := by
    have found := same "code" (by decide)
    simp only [Schema.defaulted, Schema.decode_map, Schema.decode_optional, found, write, fields,
      Json.get?_ofFields_cons, if_true]
    -- A code that is left out is read as zero, which is the only one that may be left out.
    by_cases zero : spelling.zeroLeftOut = true ∧ outcome.code = 0
    · simp [zero]
    · simp [zero]
  have log : (Schema.optionalField "log" .string).decode name value = .ok outcome.log :=
    Schema.decode_optional_of_pick ((same "log" (by decide)).trans (by simp [write, fields]))
      Json.unlessNull_string fun text _ => Leaf.read_string "log" text
  have data : (Schema.optionalField "data" .base64).decode name value = .ok outcome.data :=
    Schema.decode_optional_of_pick ((same "data" (by decide)).trans (by simp [write, fields]))
      Json.unlessNull_base64 fun bs _ => Leaf.read_base64 "data" bs
  have tags : (Schema.optional "tags" (.items Tag.schema)).decode name value = .ok outcome.tags :=
    Schema.decode_optional_of_pick ((same "tags" (by decide)).trans (by simp [write, fields]))
      (fun _ => Json.unlessNull_array _)
      fun _ _ => Schema.decode_items fun tag _ => tag.decode_write "tags"
  simp only [schema, Schema.decode_map, Schema.decode_seq, code, log, data, tags]

theorem TxOutcome.decode_write (outcome : TxOutcome) :
    TxOutcome.schema.decode name (outcome.write spelling) = .ok outcome :=
  outcome.decode_of_get? spelling name fun _ _ => rfl

@[simp] theorem TxOutcome.unlessNull_write (outcome : TxOutcome) :
    Json.unlessNull (outcome.write spelling) = some (outcome.write spelling) := rfl

@[simp] theorem TxProof.unlessNull_write (proof : TxProof) :
    Json.unlessNull (proof.write spelling) = some (proof.write spelling) := by
  simp only [write]
  cases dialect.proofLayout <;> rfl

theorem TxProof.decode_write (proof : TxProof) :
    (TxProof.schema dialect).decode name (proof.write spelling) = .ok proof := by
  have aunts {inner : Json}
      (found : inner.get? "aunts" = Json.unlessNull (spelling.list base64 proof.aunts)) :
      (Schema.listOrEmpty "aunts" (.leaf .base64)).decode "Proof" inner = .ok proof.aunts :=
    spelling.decode_listOrEmpty found fun aunt _ => Leaf.read_base64 "aunts" aunt
  simp only [schema, write]
  cases dialect.proofLayout with
  | beside => simp [counterSchema, counters, aunts]
  | inside => simp [counterSchema, counters, aunts]

theorem TxRecord.decode_write (record : TxRecord) :
    (TxRecord.schema dialect).decode name (record.write spelling) = .ok record := by
  have proof : (Schema.optional "proof" (TxProof.schema dialect)).decode name
      (record.write spelling) = .ok record.proof :=
    Schema.decode_optional_of_pick (by simp [write]) (TxProof.unlessNull_write spelling)
      fun proof _ => proof.decode_write spelling "proof"
  simp only [schema, Schema.decode_map, Schema.decode_seq, proof]
  simp [write, TxHash.schema, TxOutcome.decode_write]

theorem TxMatches.decode_write (found : TxMatches) :
    (TxMatches.schema dialect).decode name (found.write spelling) = .ok found := by
  have txs : (Schema.items (TxRecord.schema dialect)).decode "txs"
      (.array (found.txs.map (TxRecord.write spelling))) = .ok found.txs :=
    Schema.decode_items fun record _ => record.decode_write spelling "txs"
  simp [schema, write, Schema.listOf, txs]

theorem Submission.decode_write (submission : Submission) :
    Submission.schema.decode name (submission.write spelling) = .ok submission := by
  have outcome : TxOutcome.schema.decode name (submission.write spelling) =
      .ok submission.outcome :=
    submission.outcome.decode_of_get? spelling name
      (by simp [TxOutcome.names, write, TxOutcome.write])
  simp only [schema, Schema.decode_map, Schema.decode_seq, outcome]
  simp [write, TxHash.schema]

theorem Inclusion.decode_write (inclusion : Inclusion) :
    Inclusion.schema.decode name (inclusion.write spelling) = .ok inclusion := by
  have height : (Schema.optionalField "height" .u64).decode name (inclusion.write spelling) =
      .ok inclusion.height :=
    Schema.decode_optional_of_pick (by simp [write]) (fun _ => Json.unlessNull_decimal _)
      fun height _ => Leaf.read_u64 "height" height
  have delivery : (Schema.optional "deliver_tx" TxOutcome.schema).decode name
      (inclusion.write spelling) = .ok inclusion.delivery :=
    Schema.decode_optional_of_pick (by simp [write]) (TxOutcome.unlessNull_write spelling)
      fun outcome _ => outcome.decode_write spelling "deliver_tx"
  simp only [schema, Schema.decode_map, Schema.decode_seq, height, delivery]
  simp [write, TxHash.schema, TxOutcome.decode_write]

theorem TxEvent.decode_write {hashTx : Bytes → TxHash} {event : TxEvent}
    (own : event.hash = hashTx event.tx) :
    (TxEvent.schema hashTx).decode name (event.write spelling) = .ok event := by
  simp [schema, write, TxOutcome.decode_write, ← own]

end Reading

/-- Whatever a node writes about transactions is read as what it was, in both versions and for
every way of spelling it: a transaction that was looked up, a page of a search, the answers to a
transaction that was handed in, and an announced transaction with the hash of its version. -/
theorem transactions_round_trip (version : Version) (spelling : Spelling version.dialect) :
    (∀ record : TxRecord, Answer.tx.read version (record.write spelling) = .ok record) ∧
    (∀ found : TxMatches, Answer.txSearch.read version (found.write spelling) = .ok found) ∧
    (∀ submission : Submission,
      Answer.submit.read version (submission.write spelling) = .ok submission ∧
      Answer.submitAsync.read version (submission.write spelling) = .ok submission) ∧
    (∀ inclusion : Inclusion,
      Answer.submitCommit.read version (inclusion.write spelling) = .ok inclusion) ∧
    (∀ (event : TxEvent) (query : Option String) (kind : String),
      event.hash = version.hashTx event.tx →
      Announcement.tx.read version ⟨query, kind, event.payload spelling⟩ = .ok event) := by
  refine ⟨fun record => record.decode_write spelling "result",
    fun found => found.decode_write spelling "result",
    fun submission => ⟨submission.decode_write spelling "result",
      submission.decode_write spelling "result"⟩,
    fun inclusion => inclusion.decode_write spelling "result", ?_⟩
  intro event query kind own
  exact Announcement.tx.read_of_subject version
    (by simp [Announcement.kind, EventKind.subject, TxEvent.payload, TxEvent.write])
    (TxEvent.decode_write spelling "TxResult" own)

section Announced

/-- A node of version 0.25 that leaves out what it can. -/
def Spelling.terse : Spelling Version.v0_25.dialect where
  lowerHex := false
  zeroLeftOut := true
  emptyAsNull := true
  evidenceShell := false
  keyType := Version.commonKeyType
  keyType_mem := .head _
  signatureType := none

/-- The transaction `abc` with the first bytes of its SHA-256. -/
def TxEvent.sample : TxEvent where
  tx := [0x61, 0x62, 0x63]
  hash := ⟨[0xba, 0x78, 0x16, 0xbf, 0x8f, 0x01, 0xcf, 0xea, 0x41, 0x41, 0x40, 0xde, 0x5d, 0xae,
    0x22, 0x23, 0xb0, 0x03, 0x61, 0xa3]⟩
  outcome := ⟨0, none, none, some [⟨[0x6b], []⟩]⟩
  height := 12
  index := 0

theorem announced_transaction_round_trips :
    TxEvent.sample.hash = Version.v0_25.hashTx TxEvent.sample.tx ∧
    Announcement.tx.read .v0_25 ⟨none, "tendermint/event/Tx", TxEvent.sample.payload .terse⟩ =
      .ok .sample := by
  have own : TxEvent.sample.hash = Version.v0_25.hashTx TxEvent.sample.tx := by decide +kernel
  exact ⟨own, (transactions_round_trip .v0_25 .terse).2.2.2.2 _ _ _ own⟩

end Announced

end Tendermint
