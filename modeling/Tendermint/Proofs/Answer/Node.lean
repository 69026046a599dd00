import Tendermint.Proofs.Answer.Block
import Tendermint.Proofs.Answer.Tx
import Tendermint.Proofs.Schema.Settings

/-!
# Tendermint.Proofs.Answer.Node

What a node writes of itself, of its application and of its validators, and what is read of it.
Each of the four ways in which a validator is written leaves other parts of it out.

* `nodes_round_trip`: every such answer is read back as it was, in both versions and however the
  node spells it.
-/

namespace Tendermint

open Json (base64 decimal ofFields)

/-- What a version leaves to the node that writes of itself. -/
structure NodeSpelling (dialect : Dialect) extends Spelling dialect where
  /-- The name of the limits on blocks. -/
  blockGroup : String
  blockGroup_mem : blockGroup ∈ ConsensusParams.blockNames
  /-- The name of the limits on evidence. -/
  evidenceGroup : String
  evidenceGroup_mem : evidenceGroup ∈ ConsensusParams.evidenceNames
  /-- The name of the power in a change of the validator set. -/
  power : String
  power_mem : power ∈ ["voting_power", "power"]
  /-- An empty key or value of an application's answer is left out. -/
  emptyLeftOut : Bool

variable {dialect : Dialect} (spelling : NodeSpelling dialect)

/-- The other settings of a node, as an object. -/
def NodeInfo.settings (info : NodeInfo) : Json :=
  .object (info.other.map fun setting => (setting.1, .string setting.2))

def NodeInfo.write (info : NodeInfo) : Json :=
  ofFields [("id", spelling.hex info.id), ("listen_addr", Json.string info.listenAddress),
    ("network", Json.string info.network), ("version", Json.string info.version),
    ("channels", Json.string info.channels), ("moniker", Json.string info.moniker),
    ("other", info.settings)]

def SyncInfo.write (sync : SyncInfo) (time : String) : Json :=
  ofFields [("latest_block_hash", spelling.hex sync.latestBlockHash),
    ("latest_app_hash", spelling.hex sync.latestAppHash),
    ("latest_block_height", decimal sync.latestBlockHeight.toNat),
    ("latest_block_time", Json.string time), (dialect.syncFlag, Json.bool sync.catchingUp)]

def SyncInfo.Written (sync : SyncInfo) (json : Json) : Prop :=
  ∃ time, Timestamp.ofText time = .ok sync.latestBlockTime ∧ json = sync.write spelling time

namespace Validator

/-- The validator of the node that answers. -/
def writeOwn (validator : Validator) : Json :=
  ofFields [("address", validator.address.map spelling.hex),
    ("pub_key", validator.publicKey.write spelling.toSpelling),
    ("voting_power", decimal validator.votingPower.toInt)]

def writeGenesis (validator : Validator) : Json :=
  ofFields [("address", validator.address.map spelling.hex),
    ("pub_key", validator.publicKey.write spelling.toSpelling),
    ("power", decimal validator.votingPower.toInt), ("name", validator.name.map Json.string)]

def writeUpdate (validator : Validator) : Json :=
  ofFields [("address", validator.address.map spelling.hex),
    ("pub_key", validator.publicKey.write spelling.toSpelling),
    (spelling.power, decimal validator.votingPower.toInt)]

end Validator

def Status.Written (status : Status) (json : Json) : Prop :=
  ∃ sync, status.sync.Written spelling sync ∧
    json = ofFields [("node_info", status.node.write spelling), ("sync_info", sync),
      ("validator_info", status.validator.writeOwn spelling)]

def BlockLimits.write (limits : BlockLimits) : Json :=
  ofFields [("max_bytes", decimal limits.maxBytes.toNat), ("max_gas", decimal limits.maxGas.toInt)]

def EvidenceLimits.write (limits : EvidenceLimits) : Json :=
  ofFields [("max_age", decimal limits.maxAge.toNat)]

def ConsensusParams.write (params : ConsensusParams) : Json :=
  ofFields [(spelling.blockGroup, params.block.write),
    (spelling.evidenceGroup, params.evidence.write)]

def Genesis.write (genesis : Genesis) (time : String) : Json :=
  ofFields [("genesis", ofFields [("genesis_time", Json.string time),
    ("chain_id", Json.string genesis.chainId),
    ("consensus_params", genesis.consensusParams.write spelling),
    ("validators", Json.array (genesis.validators.map (Validator.writeGenesis spelling))),
    ("app_hash", spelling.hex genesis.appHash), ("app_state", genesis.appState)])]

def Genesis.Written (genesis : Genesis) (json : Json) : Prop :=
  ∃ time, Timestamp.ofText time = .ok genesis.time ∧ json = genesis.write spelling time

def ValidatorSet.write (set : ValidatorSet) : Json :=
  ofFields [("block_height", decimal set.height.toNat),
    ("validators", Json.array (set.validators.map (Validator.write spelling.toSpelling)))]

def EndBlock.write (ending : EndBlock) : Json :=
  ofFields [("validator_updates", spelling.list (Validator.writeUpdate spelling)
      ending.validatorUpdates),
    ("consensus_param_updates", ending.consensusUpdates.map (ConsensusParams.write spelling)),
    ("tags", ending.tags.map fun tags => .array (tags.map Tag.write))]

def BlockOutcome.write (outcome : BlockOutcome) : Json :=
  ofFields [("height", decimal outcome.height.toNat),
    ("results", ofFields [
      ("DeliverTx", spelling.list (TxOutcome.write spelling.toSpelling) outcome.txs),
      ("EndBlock", outcome.endBlock.write spelling)])]

def AppInfo.write (info : AppInfo) : Json :=
  ofFields [("response", ofFields [("data", info.data.map Json.string),
    ("last_block_height", info.lastBlockHeight.map fun height => decimal height.toNat),
    ("last_block_app_hash", info.lastBlockAppHash.map base64)])]

/-- Bytes that may be left out when there are none. -/
def NodeSpelling.bytes (bs : Bytes) : Option Json :=
  if spelling.emptyLeftOut ∧ bs = [] then none else base64 bs

theorem NodeSpelling.decode_bytes {name key : String} {json : Json} {bs : Bytes}
    (found : json.get? key = Json.pick (spelling.bytes bs) none) :
    (Schema.defaulted key [] (.leaf .base64)).decode name json = .ok bs := by
  rw [Schema.defaulted, Schema.decode_map, Schema.decode_optional, found, bytes]
  by_cases empty : spelling.emptyLeftOut = true ∧ bs = []
  · simp [empty]
  · simp [empty]

def AppAnswer.response (answer : AppAnswer) : Json :=
  ofFields [("log", answer.log.map Json.string),
    ("height", answer.height.map fun height => decimal height.toNat),
    ("index", answer.index.map fun index => decimal index.toNat),
    ("key", spelling.bytes answer.key), ("value", spelling.bytes answer.value),
    ("code", answer.code.map fun code => decimal code.toNat)]

def AppAnswer.write (answer : AppAnswer) : Json :=
  ofFields [("response", answer.response spelling)]

/-- The settings of a node are a map, kept in the order of its keys. -/
def NodeInfo.InKeyOrder (info : NodeInfo) : Prop := info.other.Pairwise fun a b => a.1 < b.1

section Reading

variable {spelling} (name : String) {json : Json}

theorem NodeInfo.read_settings {info : NodeInfo} (ordered : info.InKeyOrder) :
    Leaf.settings.read name info.settings = .ok info.other :=
  Settings.read_object ordered

theorem NodeInfo.decode_write {info : NodeInfo} (ordered : info.InKeyOrder) :
    NodeInfo.schema.decode name (info.write spelling) = .ok info := by
  have shown : Json.unlessNull info.settings = some info.settings := rfl
  simp [schema, write, shown, read_settings "other" ordered]

theorem SyncInfo.Written.decode {version : Version} {spelling : NodeSpelling version.dialect}
    {sync : SyncInfo} (h : sync.Written spelling json) :
    (SyncInfo.schema version.dialect).decode name json = .ok sync := by
  obtain ⟨time, text, rfl⟩ := h
  cases version <;>
    simp [schema, write, Version.dialect, Schema.defaulted, Leaf.read_time "latest_block_time" text]

theorem SyncInfo.Written.unlessNull {sync : SyncInfo} (h : sync.Written spelling json) :
    Json.unlessNull json = some json := by
  obtain ⟨time, -, rfl⟩ := h
  rfl

namespace Validator

variable {validator : Validator}

theorem decode_writeOwn (addressed : validator.address.isSome) (nameless : validator.name = none)
    (plain : validator.accum = none) :
    (ownSchema dialect).decode name (validator.writeOwn spelling) = .ok validator := by
  obtain ⟨address, key, power, _, _⟩ := validator
  obtain ⟨address, rfl⟩ := Option.isSome_iff_exists.1 addressed
  subst nameless plain
  simp [ownSchema, writeOwn]

theorem decode_writeGenesis (plain : validator.accum = none) :
    (genesisSchema dialect).decode name (validator.writeGenesis spelling) = .ok validator := by
  obtain ⟨address, key, power, label, _⟩ := validator
  subst plain
  cases address <;> cases label <;> simp [genesisSchema, writeGenesis]

/-- Either name of the power is read. -/
theorem decode_writeUpdate (nameless : validator.name = none) (plain : validator.accum = none) :
    (updateSchema dialect).decode name (validator.writeUpdate spelling) = .ok validator := by
  obtain ⟨address, key, power, _, _⟩ := validator
  subst nameless plain
  have named : spelling.power = "voting_power" ∨ spelling.power = "power" := by
    simpa using spelling.power_mem
  obtain named | named := named
  · cases address <;> simp [updateSchema, writeUpdate, named]
  · cases address <;> simp [updateSchema, writeUpdate, named]

end Validator

theorem Status.Written.decode {version : Version} {spelling : NodeSpelling version.dialect}
    {status : Status} (ordered : status.node.InKeyOrder)
    (addressed : status.validator.address.isSome) (nameless : status.validator.name = none)
    (plain : status.validator.accum = none) (h : status.Written spelling json) :
    (Status.schema version.dialect).decode name json = .ok status := by
  obtain ⟨sync, written, rfl⟩ := h
  have node : Json.unlessNull (status.node.write spelling) = some (status.node.write spelling) := rfl
  have own : Json.unlessNull (status.validator.writeOwn spelling) =
    some (status.validator.writeOwn spelling) := rfl
  simp [schema, node, own, written.unlessNull, NodeInfo.decode_write "node_info" ordered,
    written.decode, Validator.decode_writeOwn "validator_info" addressed nameless plain]

@[simp] theorem BlockLimits.decode_write (limits : BlockLimits) :
    BlockLimits.schema.decode name limits.write = .ok limits := by
  simp [schema, write]

@[simp] theorem EvidenceLimits.decode_write (limits : EvidenceLimits) :
    EvidenceLimits.schema.decode name limits.write = .ok limits := by
  simp [schema, write]

/-- Either name of a group is found. -/
theorem ConsensusParams.firstPresent_write (params : ConsensusParams) :
    Schema.firstPresent (params.write spelling) blockNames =
        some (spelling.blockGroup, params.block.write) ∧
      Schema.firstPresent (params.write spelling) evidenceNames =
        some (spelling.evidenceGroup, params.evidence.write) := by
  have limits : Json.unlessNull params.block.write = some params.block.write := rfl
  have evidence : Json.unlessNull params.evidence.write = some params.evidence.write := rfl
  have blockNamed : spelling.blockGroup = "block_size_params" ∨ spelling.blockGroup = "block_size" := by
    simpa [blockNames] using spelling.blockGroup_mem
  have evidenceNamed : spelling.evidenceGroup = "evidence_params" ∨
      spelling.evidenceGroup = "evidence" := by
    simpa [evidenceNames] using spelling.evidenceGroup_mem
  obtain blockNamed | blockNamed := blockNamed <;>
    obtain evidenceNamed | evidenceNamed := evidenceNamed <;>
    simp [write, Schema.firstPresent, blockNames, evidenceNames, blockNamed, evidenceNamed, limits,
      evidence]

theorem ConsensusParams.decode_write (params : ConsensusParams) :
    schema.decode name (params.write spelling) = .ok params := by
  obtain ⟨block, evidence⟩ := @firstPresent_write _ spelling params
  simp [schema, Schema.decode, block, evidence]

theorem ConsensusParams.unlessNull_write (params : ConsensusParams) :
    Json.unlessNull (params.write spelling) = some (params.write spelling) := rfl

theorem Genesis.Written.decode {genesis : Genesis}
    (plain : ∀ validator ∈ genesis.validators, validator.accum = none)
    (stated : genesis.appState ≠ some .null) (h : genesis.Written spelling json) :
    (schema dialect).decode name json = .ok genesis := by
  obtain ⟨time, text, rfl⟩ := h
  have validators : (Schema.items (Validator.genesisSchema dialect)).decode "validators"
      (.array (genesis.validators.map (Validator.writeGenesis spelling))) =
        .ok genesis.validators :=
    Schema.decode_items fun validator here =>
      Validator.decode_writeGenesis "validators" (plain validator here)
  have state : Json.pick genesis.appState none = genesis.appState := by
    cases held : genesis.appState with
    | none => rfl
    | some value => exact Json.unlessNull_of_ne fun null => stated (by rw [held, null])
  have kept : Schema.optionally (Leaf.json.read "app_state") genesis.appState =
      .ok genesis.appState := by
    cases genesis.appState <;> rfl
  simp [schema, write, Schema.listOf, Leaf.read_time "genesis_time" text, validators, state, kept,
    ConsensusParams.unlessNull_write, ConsensusParams.decode_write]

theorem ValidatorSet.decode_write {set : ValidatorSet}
    (known : ∀ validator ∈ set.validators, validator.address.isSome ∧ validator.name = none) :
    (schema dialect).decode name (set.write spelling) = .ok set := by
  have validators : (Schema.items (Validator.memberSchema dialect)).decode "validators"
      (.array (set.validators.map (Validator.write spelling.toSpelling))) = .ok set.validators :=
    Schema.decode_items fun validator here =>
      have ⟨addressed, nameless⟩ := known validator here
      Validator.decode_write "validators" addressed nameless
  simp [schema, write, Schema.listOf, validators]

theorem EndBlock.decode_write {ending : EndBlock}
    (bare : ∀ validator ∈ ending.validatorUpdates, validator.name = none ∧ validator.accum = none) :
    (schema dialect).decode name (ending.write spelling) = .ok ending := by
  have updates : (Schema.listOrEmpty "validator_updates" (Validator.updateSchema dialect)).decode
      name (ending.write spelling) = .ok ending.validatorUpdates :=
    spelling.decode_listOrEmpty (by simp [write]) fun validator here =>
      @Validator.decode_writeUpdate _ spelling "validator_updates" validator
        (bare validator here).1 (bare validator here).2
  have params : (Schema.optional "consensus_param_updates" ConsensusParams.schema).decode name
      (ending.write spelling) = .ok ending.consensusUpdates := by
    have found : (ending.write spelling).get? "consensus_param_updates" =
        Json.pick (ending.consensusUpdates.map (ConsensusParams.write spelling)) none := by
      simp [write]
    exact Schema.decode_optional_of_pick found ConsensusParams.unlessNull_write
      fun params _ => params.decode_write "consensus_param_updates"
  have tags : (Schema.optional "tags" (.items Tag.schema)).decode name (ending.write spelling) =
      .ok ending.tags :=
    Schema.decode_optional_of_pick (by simp [write]) (fun _ => Json.unlessNull_array _)
      fun _ _ => Schema.decode_items fun tag _ => tag.decode_write "tags"
  simp only [schema, Schema.decode_map, Schema.decode_seq, updates, params, tags]

theorem BlockOutcome.decode_write {outcome : BlockOutcome}
    (bare : ∀ validator ∈ outcome.endBlock.validatorUpdates,
      validator.name = none ∧ validator.accum = none) :
    (schema dialect).decode name (outcome.write spelling) = .ok outcome := by
  have ending : Json.unlessNull (outcome.endBlock.write spelling) =
    some (outcome.endBlock.write spelling) := rfl
  have txs {results : Json} (found : results.get? "DeliverTx" = Json.unlessNull
      (spelling.list (TxOutcome.write spelling.toSpelling) outcome.txs)) :
      (Schema.listOrEmpty "DeliverTx" TxOutcome.schema).decode "results" results =
        .ok outcome.txs :=
    spelling.decode_listOrEmpty found fun tx _ => tx.decode_write spelling.toSpelling "DeliverTx"
  simp [schema, write, ending, txs, EndBlock.decode_write "EndBlock" bare]

theorem AppInfo.decode_write (info : AppInfo) :
    schema.decode name info.write = .ok info := by
  obtain ⟨data, height, hash⟩ := info
  cases data <;> cases height <;> cases hash <;> simp [schema, write]

theorem AppAnswer.decode_write (answer : AppAnswer) :
    schema.decode name (answer.write spelling) = .ok answer := by
  have shown : Json.unlessNull (answer.response spelling) = some (answer.response spelling) := rfl
  have key : (Schema.defaulted "key" [] (.leaf .base64)).decode "response"
      (answer.response spelling) = .ok answer.key :=
    spelling.decode_bytes (by simp [response])
  have value : (Schema.defaulted "value" [] (.leaf .base64)).decode "response"
      (answer.response spelling) = .ok answer.value :=
    spelling.decode_bytes (by simp [response])
  have height : (Schema.optionalField "height" .u64).decode "response"
      (answer.response spelling) = .ok answer.height :=
    Schema.decode_optional_of_pick (by simp [response]) (fun _ => Json.unlessNull_decimal _)
      fun height _ => Leaf.read_u64 "height" height
  have index : (Schema.optionalField "index" .u64).decode "response"
      (answer.response spelling) = .ok answer.index :=
    Schema.decode_optional_of_pick (by simp [response]) (fun _ => Json.unlessNull_decimal _)
      fun index _ => Leaf.read_u64 "index" index
  have code : (Schema.optionalField "code" .u32).decode "response"
      (answer.response spelling) = .ok answer.code :=
    Schema.decode_optional_of_pick (by simp [response]) (fun _ => Json.unlessNull_decimal _)
      fun code _ => Leaf.read_u32 "code" code
  have log : (Schema.optionalField "log" .string).decode "response"
      (answer.response spelling) = .ok answer.log :=
    Schema.decode_optional_of_pick (by simp [response]) Json.unlessNull_string
      fun text _ => Leaf.read_string "log" text
  simp only [schema, write, Schema.decode_required, Json.get?_ofFields_cons, if_true,
    Json.pick_some, shown, Schema.decode_map, Schema.decode_seq, key, value, height, index, code,
    log]

end Reading

/-- Whatever a node writes of itself is read as what it was, in both versions and for every way of
spelling it: its status, the genesis document, a validator set, what came of a block, and what its
application says of itself or answers. The validators have the parts that are written of them where
they stand, and the application's part of the genesis document is not `null`. -/
theorem nodes_round_trip (version : Version) (spelling : NodeSpelling version.dialect) (json : Json) :
    (∀ status : Status, status.node.InKeyOrder → status.validator.address.isSome →
      status.validator.name = none → status.validator.accum = none →
      status.Written spelling json → Answer.status.read version json = .ok status) ∧
    (∀ genesis : Genesis, (∀ validator ∈ genesis.validators, validator.accum = none) →
      genesis.appState ≠ some .null → genesis.Written spelling json →
      Answer.genesis.read version json = .ok genesis) ∧
    (∀ set : ValidatorSet,
      (∀ validator ∈ set.validators, validator.address.isSome ∧ validator.name = none) →
      Answer.validators.read version (set.write spelling) = .ok set) ∧
    (∀ outcome : BlockOutcome,
      (∀ validator ∈ outcome.endBlock.validatorUpdates,
        validator.name = none ∧ validator.accum = none) →
      Answer.blockResults.read version (outcome.write spelling) = .ok outcome) ∧
    (∀ info : AppInfo, Answer.appInfo.read version info.write = .ok info) ∧
    (∀ answer : AppAnswer, Answer.appQuery.read version (answer.write spelling) = .ok answer) :=
  ⟨fun _ ordered addressed nameless plain written =>
      written.decode "result" ordered addressed nameless plain,
    fun _ plain stated written => written.decode "result" plain stated,
    fun _ known => ValidatorSet.decode_write "result" known,
    fun _ bare => BlockOutcome.decode_write "result" bare,
    fun info => info.decode_write "result",
    fun answer => answer.decode_write "result"⟩

section Sample

/-- A node of version 0.20 with the old names throughout. -/
def NodeSpelling.old : NodeSpelling Version.v0_20.dialect where
  lowerHex := false
  zeroLeftOut := true
  emptyAsNull := true
  evidenceShell := false
  keyType := "AC26791624DE60"
  keyType_mem := by decide
  signatureType := none
  blockGroup := "block_size_params"
  blockGroup_mem := by decide
  evidenceGroup := "evidence_params"
  evidenceGroup_mem := by decide
  power := "power"
  power_mem := by decide
  emptyLeftOut := true

def Status.sample : Status where
  node := ⟨[0xaa], "tcp://0.0.0.0:26656", "chain", "0.20.0", "40", "node",
    [("amino_version", "0.9"), ("p2p_version", "0.5")]⟩
  sync := ⟨[0xbb], [], 7, ⟨⟨2018, 11, 13⟩, 14, 51, 43, 165423645, 0⟩, true⟩
  validator := ⟨some [0x11], ⟨[0x22]⟩, 10, none, none⟩

def Status.sampleJson : Json :=
  ofFields [("node_info", Status.sample.node.write .old),
    ("sync_info", Status.sample.sync.write .old "2018-11-13T14:51:43.165423645Z"),
    ("validator_info", Status.sample.validator.writeOwn .old)]

def Genesis.sample : Genesis where
  time := ⟨⟨2018, 11, 13⟩, 16, 51, 42, 0, 120⟩
  chainId := "chain"
  consensusParams := ⟨⟨22020096, -1⟩, ⟨100000⟩⟩
  validators := [⟨none, ⟨[0x22]⟩, 10, some "first", none⟩]
  appHash := []
  appState := some (.object [])

def ValidatorSet.sample : ValidatorSet := ⟨7, [⟨some [0x11], ⟨[0x22]⟩, 10, none, some (-5)⟩]⟩

def BlockOutcome.sample : BlockOutcome where
  height := 7
  txs := [⟨0, none, none, some [⟨[0x6b], []⟩]⟩]
  endBlock := ⟨[⟨none, ⟨[0x22]⟩, 0, none, none⟩], some ⟨⟨22020096, -1⟩, ⟨100000⟩⟩, none⟩

theorem sample_nodes_round_trip :
    Answer.status.read .v0_20 Status.sampleJson = .ok .sample ∧
    Answer.genesis.read .v0_20 (Genesis.sample.write .old "2018-11-13T16:51:42+02:00") =
      .ok .sample ∧
    Answer.validators.read .v0_20 (ValidatorSet.sample.write .old) = .ok .sample ∧
    Answer.blockResults.read .v0_20 (BlockOutcome.sample.write .old) = .ok .sample ∧
    Answer.appInfo.read .v0_20 (AppInfo.write ⟨some "app", some 7, none⟩) =
      .ok ⟨some "app", some 7, none⟩ ∧
    Answer.appQuery.read .v0_20 (AppAnswer.write .old ⟨[0x6b], [], none, some 1, none, none⟩) =
      .ok ⟨[0x6b], [], none, some 1, none, none⟩ := by
  have round := nodes_round_trip .v0_20 .old
  refine ⟨(round _).1 _ ?_ rfl rfl rfl ⟨_, ⟨_, by decide, rfl⟩, rfl⟩,
    (round _).2.1 _ ?_ (by decide) ⟨_, by decide, rfl⟩, (round .null).2.2.1 _ ?_,
    (round .null).2.2.2.1 _ ?_, (round .null).2.2.2.2.1 _, (round .null).2.2.2.2.2 _⟩
  · exact List.pairwise_pair.2 (by decide)
  · intro validator here
    rw [List.mem_singleton.1 here]
  · intro validator here
    rw [List.mem_singleton.1 here]
    exact ⟨rfl, rfl⟩
  · intro validator here
    rw [List.mem_singleton.1 here]
    exact ⟨rfl, rfl⟩

end Sample

end Tendermint
