import Tendermint.Proofs.Schema.Narrowing
import Tendermint.Proofs.Answer.Block
import Tendermint.Proofs.Answer.Layout

/-!
# Tendermint.Proofs.Answer.Dialect

The two protocol versions agree outside their documented differences. The newer one does not know
one type of key, and it looks for the counters of a proof in another place first; where neither
matters, both read the same or fail with the same error.

* `Answer.keyPlaces`, `Announcement.keyPlaces`: where the types of keys are read.
* `Answer.counterPlaces`: where only the newer version looks for counters.
* `versions_agree`.
-/

namespace Tendermint

/-- The key type that only the older version knows. -/
def Version.legacyKeyType : String := "AC26791624DE60"

/-- Nothing stands at some places of a value; what is `null` does not count. -/
def Json.Lacks (value : Json) (places : List (List Turn)) : Prop :=
  ∀ place ∈ places, ∀ found, ¬ Json.At place value found

/-- No key at some places of a value has the type that only the older version knows. -/
def Json.LacksLegacyKeys (value : Json) (places : List (List Turn)) : Prop :=
  ∀ place ∈ places, ¬ Json.At place value (.string Version.legacyKeyType)

/-- Where the counters of a proof stand inside the inner proof. -/
def TxProof.counterPlaces : List (List Turn) :=
  [[.member "Proof", .member "total"], [.member "Proof", .member "index"]]

def TxRecord.counterPlaces : List (List Turn) :=
  TxProof.counterPlaces.map (.member "proof" :: ·)

def TxMatches.counterPlaces : List (List Turn) :=
  (TxRecord.counterPlaces.map (.item :: ·)).map (.member "txs" :: ·)

namespace Answer

/-- Where an answer has the types of keys. -/
def keyPlaces {α : Type} : Answer α → List (List Turn)
  | .status => [[.member "validator_info", .member "pub_key", .member "type"]]
  | .block =>
    [[.member "block", .member "evidence", .member "evidence", .item, .member "validator",
      .member "pub_key", .member "type"]]
  | .blockResults =>
    [[.member "results", .member "EndBlock", .member "validator_updates", .item,
      .member "pub_key", .member "type"]]
  | .genesis =>
    [[.member "genesis", .member "validators", .item, .member "pub_key", .member "type"]]
  | .validators => [[.member "validators", .item, .member "pub_key", .member "type"]]
  | _ => []

/-- Where an answer has counters of proofs that only the newer version looks for. -/
def counterPlaces {α : Type} : Answer α → List (List Turn)
  | .tx => TxRecord.counterPlaces
  | .txSearch => TxMatches.counterPlaces
  | _ => []

/-- Whether an answer has a flag that the versions call by different names. -/
def hasSyncFlag {α : Type} : Answer α → Bool
  | .status => true
  | _ => false

variable {α : Type}

theorem keyPlaces_schema (version : Version) (answer : Answer α) :
    (answer.schema version).keyPlaces = answer.keyPlaces := by
  cases answer <;> cases version <;> rfl

end Answer

namespace Announcement

variable {α : Type}

/-- Where the payload of an event has the types of keys. -/
def keyPlaces {α : Type} : Announcement α → List (List Turn)
  | .block =>
    [[.member "block", .member "evidence", .member "evidence", .item, .member "validator",
      .member "pub_key", .member "type"]]
  | _ => []

theorem keyPlaces_payloadSchema (version : Version) (announcement : Announcement α) :
    (announcement.payloadSchema version).keyPlaces = announcement.keyPlaces := by
  cases announcement <;> cases version <;> rfl

end Announcement

/-! ## Keys -/

section Keys

open Version (legacyKeyType)

/-- How the newer version lays a record out, against the older one. -/
abbrev Narrowed {α : Type} (schema : Dialect → Schema α) : Prop :=
  Schema.Narrows legacyKeyType (schema Version.v0_25.dialect) (schema Version.v0_20.dialect)

theorem PublicKey.narrowed : Narrowed schema :=
  .ap (.ap (.same _) (.member (.keyType fun _ => List.mem_cons))) (.same _)

namespace Validator

theorem narrowed_genesis : Narrowed genesisSchema :=
  .ap (.ap (.ap (.ap (.same _) (.same _)) (.member PublicKey.narrowed)) (.same _)) (.same _)

theorem narrowed_update : Narrowed updateSchema :=
  .ap (.ap (.same _) (.same _)) (.member PublicKey.narrowed)

theorem narrowed_member : Narrowed memberSchema :=
  .ap (.ap (.same _) (.same _)) narrowed_update

end Validator

theorem Evidence.narrowed : Narrowed schema :=
  .ap (.ap (.ap (.ap (.same _) (.member Validator.narrowed_member)) (.same _)) (.same _)) (.same _)

theorem Block.narrowed : Narrowed schema :=
  .ap (.same _) (.ap (.same _) (.optional (.optional (.items Evidence.narrowed))))

theorem IdentifiedBlock.narrowed : Narrowed schema := .ap (.same _) (.member Block.narrowed)

theorem EndBlock.narrowed : Narrowed schema :=
  .ap (.ap (.ap (.same _) (.ap (.same _) (.optional (.items Validator.narrowed_update))))
    (.same _)) (.same _)

theorem BlockOutcome.narrowed : Narrowed schema :=
  .ap (.same _) (.ap (.same _) (.member (.member EndBlock.narrowed)))

theorem Genesis.narrowed : Narrowed schema :=
  .member (.ap (.ap (.ap (.same _) (.member (.items Validator.narrowed_genesis))) (.same _)) (.same _))

theorem ValidatorSet.narrowed : Narrowed schema :=
  .ap (.same _) (.member (.items Validator.narrowed_member))

variable {α : Type}

/-- Without counters and without the flag, the versions differ in the types of keys alone. -/
theorem Answer.narrowed (answer : Answer α) (plain : answer.counterPlaces = [])
    (unflagged : answer.hasSyncFlag = false) :
    Schema.Narrows legacyKeyType (answer.schema .v0_25) (answer.schema .v0_20) := by
  cases answer with
  | status => cases unflagged
  | tx | txSearch => cases plain
  | block => exact IdentifiedBlock.narrowed
  | blockResults => exact BlockOutcome.narrowed
  | genesis => exact Genesis.narrowed
  | validators => exact ValidatorSet.narrowed
  | _ => exact .same _

/-- Without a key of the legacy type a narrower schema reads what the wider one reads. -/
theorem Schema.Narrows.decode_eq {schema wider : Schema α}
    (h : schema.Narrows legacyKeyType wider) {name : String} {value : Json}
    (lacks : value.LacksLegacyKeys schema.keyPlaces) :
    schema.decode name value = wider.decode name value := by
  obtain same | refused := h.decode name value
  · exact same
  · obtain ⟨place, known, here⟩ := keyPlace_of_decode refused
    exact absurd here (lacks place known)

/-- What a narrower schema accepts the wider one accepts as well. -/
theorem Schema.Narrows.decode_ok {schema wider : Schema α}
    (h : schema.Narrows legacyKeyType wider) {name : String} {value : Json} {a : α}
    (read : schema.decode name value = .ok a) : wider.decode name value = .ok a := by
  obtain same | refused := h.decode name value
  · rw [← same, read]
  · rw [refused] at read
    cases read

end Keys

/-! ## Counters -/

namespace TxProof

theorem decode_counter {name : String} {proof inner : Json} (layout : ProofLayout)
    (inside outside : String) (found : proof.get? "Proof" = some inner)
    (absent : inner.get? inside = none) :
    (counterSchema layout inside outside).decode name proof =
      (Schema.field outside .u64).decode name proof := by
  cases layout with
  | beside => rfl
  | inside =>
    rw [counterSchema, Schema.decode_orElse, Schema.decode_required, found]
    dsimp only
    rw [Schema.decode_optionalField, absent, Schema.optionally_none]

/-- Without counters in the inner proof all versions read a proof alike. -/
theorem decode_eq {name : String} {proof : Json} (dialect other : Dialect)
    (lacks : proof.Lacks counterPlaces) :
    (schema dialect).decode name proof = (schema other).decode name proof := by
  rw [schema, schema, Schema.decode_seqRight, Schema.decode_seqRight, Schema.decode_present]
  cases found : proof.get? "Proof" with
  | none => rfl
  | some inner =>
    have absent (key : String) (known : [.member "Proof", .member key] ∈ counterPlaces) :
        inner.get? key = none := by
      cases here : inner.get? key with
      | none => rfl
      | some counter => exact absurd ⟨inner, found, counter, here, rfl⟩ (lacks _ known counter)
    have total := absent "total" (by decide)
    have index := absent "index" (by decide)
    simp only [Schema.decode_seq, Schema.decode_map, decode_counter _ _ _ found total,
      decode_counter _ _ _ found index]

end TxProof

/-- What lacks some places lacks them in each of its parts. -/
theorem Json.Lacks.below {value found : Json} {places : List (List Turn)} {turn : Turn}
    (lacks : value.Lacks (places.map (turn :: ·)))
    (reached : ∀ place inner, Json.At place found inner → Json.At (turn :: place) value inner) :
    found.Lacks places :=
  fun place known inner here => lacks _ (List.mem_map_of_mem known) inner (reached place inner here)

theorem TxRecord.decode_eq {name : String} {value : Json} (dialect other : Dialect)
    (lacks : value.Lacks counterPlaces) :
    (schema dialect).decode name value = (schema other).decode name value := by
  have proofs : Schema.optionally ((TxProof.schema dialect).decode "proof") (value.get? "proof") =
      Schema.optionally ((TxProof.schema other).decode "proof") (value.get? "proof") := by
    cases found : value.get? "proof" with
    | none => rfl
    | some proof =>
      have flat : proof.Lacks TxProof.counterPlaces :=
        lacks.below fun place inner here => ⟨proof, found, here⟩
      simp only [Schema.optionally, TxProof.decode_eq dialect other flat]
  simp only [schema, Schema.decode_seq, Schema.decode_optional, proofs]

theorem Schema.eachItem_congr {α : Type} {read other : Json → Except DecodeError α}
    {values : List Json} (h : ∀ v ∈ values, read v = other v) :
    eachItem read values = eachItem other values := by
  induction values with
  | nil => rfl
  | cons v rest ih =>
    obtain ⟨first, others⟩ := List.forall_mem_cons.1 h
    rw [eachItem, eachItem, first, ih others]

theorem TxMatches.decode_eq {name : String} {value : Json} (dialect other : Dialect)
    (lacks : value.Lacks counterPlaces) :
    (schema dialect).decode name value = (schema other).decode name value := by
  have lists : (Schema.listOf "txs" (TxRecord.schema dialect)).decode name value =
      (Schema.listOf "txs" (TxRecord.schema other)).decode name value := by
    rw [Schema.listOf, Schema.listOf, Schema.decode_required, Schema.decode_required]
    cases found : value.get? "txs" with
    | none => rfl
    | some txs =>
      have below : txs.Lacks (TxRecord.counterPlaces.map (.item :: ·)) :=
        lacks.below fun place inner here => ⟨txs, found, here⟩
      cases txs with
      | array records =>
        refine Schema.eachItem_congr fun record mem => TxRecord.decode_eq dialect other ?_
        exact below.below fun place inner here => ⟨records, rfl, record, mem, here⟩
      | _ => rfl
  simp only [schema, Schema.decode_seq, lists]

/-! ## Answers and events -/

theorem Announcement.read_congr {α : Type} {version other : Version}
    {announcement : Announcement α} {event : Event}
    (h : (announcement.payloadSchema version).decode "value" event.value =
      (announcement.payloadSchema other).decode "value" event.value) :
    announcement.read version event = announcement.read other event := by
  cases here : (event.value.get? announcement.kind.subject).isSome with
  | true =>
    rw [read_of_subject_isSome version announcement "value" here,
      read_of_subject_isSome other announcement "value" here, h]
  | false =>
    have absent : event.value.get? announcement.kind.subject = none :=
      Option.isNone_iff_eq_none.1 (Option.isSome_eq_false_iff.1 here)
    rw [read_of_subject_eq_none version announcement absent,
      read_of_subject_eq_none other announcement absent]

/-- What the versions make of one and the same value. An answer but that to `status`, whose flag has
two names, is read alike by both, down to the error, if no key that is read in it has the type that
only the older version knows and no inner proof has counters. Whatever the value is, the older
version accepts what the newer one accepts of an answer without proofs. The same holds of an event
with a new block. -/
theorem versions_agree (value : Json) :
    (∀ (α : Type) (answer : Answer α), answer.hasSyncFlag = false →
      value.LacksLegacyKeys answer.keyPlaces → value.Lacks answer.counterPlaces →
      answer.read .v0_20 value = answer.read .v0_25 value) ∧
    (∀ (α : Type) (answer : Answer α) (a : α), answer.hasSyncFlag = false →
      answer.counterPlaces = [] → answer.read .v0_25 value = .ok a →
      answer.read .v0_20 value = .ok a) ∧
    (∀ (query : Option String) (kind : String),
      value.LacksLegacyKeys Announcement.block.keyPlaces →
      Announcement.block.read .v0_20 ⟨query, kind, value⟩ =
        Announcement.block.read .v0_25 ⟨query, kind, value⟩) ∧
    (∀ (query : Option String) (kind : String) (block : Block),
      Announcement.block.read .v0_25 ⟨query, kind, value⟩ = .ok block →
      Announcement.block.read .v0_20 ⟨query, kind, value⟩ = .ok block) := by
  have event : Schema.Narrows Version.legacyKeyType (Announcement.block.payloadSchema .v0_25)
      (Announcement.block.payloadSchema .v0_20) := .member Block.narrowed
  refine ⟨fun α answer unflagged keys counters => ?_, fun α answer a unflagged plain read =>
    (answer.narrowed plain unflagged).decode_ok read, fun query kind keys => ?_,
    fun query kind block read => ?_⟩
  · by_cases plain : answer.counterPlaces = []
    · rw [← answer.keyPlaces_schema .v0_25] at keys
      exact ((answer.narrowed plain unflagged).decode_eq keys).symm
    · cases answer with
      | tx => exact TxRecord.decode_eq _ _ counters
      | txSearch => exact TxMatches.decode_eq _ _ counters
      | _ => exact absurd rfl plain
  · rw [← Announcement.block.keyPlaces_payloadSchema .v0_25] at keys
    exact Announcement.read_congr (event.decode_eq keys).symm
  · exact (Announcement.read_eq_ok "value").2
      (event.decode_ok ((Announcement.read_eq_ok "value").1 read))

section Sample

/-- One validator, with a key of the type that both versions know. -/
def ValidatorSet.commonAnswer : Json :=
  .ofMembers [("block_height", .string "7"), ("validators", .array [.ofMembers
    [("address", .string "0a"), ("voting_power", .string "10"),
      ("pub_key", .ofMembers [("type", .string Version.commonKeyType), ("value", .string "")])]])]

/-- A transaction whose proof has its counters beside the inner proof. -/
def TxRecord.flatAnswer : Json :=
  .ofMembers [("tx", .string ""), ("tx_result", .object []), ("height", .string "7"),
    ("index", .string "0"), ("hash", .string "0a"), ("proof", .ofMembers
      [("Proof", .object []), ("Total", .string "4"), ("Index", .string "1"), ("Data", .string ""),
        ("RootHash", .string "0b")])]

theorem common_answers_read_alike :
    let set : ValidatorSet := ⟨7, [⟨some [10], ⟨[]⟩, 10, none, none⟩]⟩
    let record : TxRecord :=
      ⟨[], ⟨0, none, none, none⟩, 7, 0, ⟨[10]⟩, some ⟨[], [11], 4, 1, []⟩⟩
    let event : Event :=
      ⟨none, "tendermint/event/NewBlock", .ofFields [("block", Block.sampleJson)]⟩
    Answer.validators.read .v0_20 ValidatorSet.commonAnswer =
        Answer.validators.read .v0_25 ValidatorSet.commonAnswer ∧
      Answer.validators.read .v0_20 ValidatorSet.commonAnswer = .ok set ∧
      Answer.tx.read .v0_20 TxRecord.flatAnswer = .ok record ∧
      Answer.tx.read .v0_25 TxRecord.flatAnswer = .ok record ∧
      Announcement.block.read .v0_25 event = .ok .sample ∧
      Announcement.block.read .v0_20 event = Announcement.block.read .v0_25 event ∧
      Announcement.block.read .v0_20 event = .ok .sample := by
  intro set record event
  have validators := versions_agree ValidatorSet.commonAnswer
  have txs := versions_agree TxRecord.flatAnswer
  have events := (versions_agree event.value).2.2
  have other : Version.legacyKeyType ≠ Version.commonKeyType := by decide
  have keys : ValidatorSet.commonAnswer.LacksLegacyKeys Answer.validators.keyPlaces := by
    rintro _ (_ | ⟨_, ⟨⟩⟩) ⟨_, ⟨⟩, _, ⟨⟩, validator, here, _, present, _, known, same⟩
    obtain rfl := List.mem_singleton.1 here
    cases present
    cases known
    exact other (Json.string.inj same)
  have flat : TxRecord.flatAnswer.Lacks Answer.tx.counterPlaces := by
    rintro _ (_ | ⟨_, _ | ⟨_, ⟨⟩⟩⟩) _ ⟨_, ⟨⟩, _, ⟨⟩, _, ⟨⟩, -⟩
  have blockKeys : event.value.LacksLegacyKeys Announcement.block.keyPlaces := by
    rintro _ (_ | ⟨_, ⟨⟩⟩) ⟨_, ⟨⟩, _, ⟨⟩, _, ⟨⟩, _, ⟨⟩, evidence, here, _, validator, _, key, _, known, same⟩
    obtain rfl := List.mem_singleton.1 here
    cases validator
    cases key
    cases known
    exact other (Json.string.inj same)
  have plain {value : Json} : value.LacksLegacyKeys [] := by rintro _ ⟨⟩
  have single {value : Json} : value.Lacks [] := by rintro _ ⟨⟩
  have read : Answer.validators.read .v0_25 ValidatorSet.commonAnswer = .ok set := rfl
  have readTx : Answer.tx.read .v0_25 TxRecord.flatAnswer = .ok record := rfl
  have announced : Announcement.block.read .v0_25 event = .ok .sample :=
    Announcement.block.read_of_subject .v0_25 rfl
      (Block.written_sample.decode "block" Block.accountable_sample)
  exact ⟨validators.1 _ _ rfl keys single, validators.2.1 _ _ _ rfl rfl read,
    (txs.1 _ _ rfl plain flat).trans readTx, readTx, announced,
    events.1 _ _ blockKeys, events.2 _ _ _ announced⟩

end Sample

end Tendermint
