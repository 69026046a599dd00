import Tendermint.Proofs.Answer.Endpoint
import Tendermint.Proofs.Answer.Spelling

/-!
# Tendermint.Proofs.Answer.Block

Blocks, headers and commits as a node writes them, and what is read of them. A time may stand in
any text that is read as it, so what is written is a relation and not a function.

* `blocks_round_trip`: every answer about blocks and every announced block or header is read back
  as it was, in both versions and however the node spells it, and the gaps among the votes of a
  commit are where `null` stands.
-/

namespace Tendermint

open Json (base64 decimal ofFields)

variable {dialect : Dialect} (spelling : Spelling dialect)

def BlockId.write (id : BlockId) : Json :=
  ofFields [("hash", spelling.hex id.hash),
    ("parts", ofFields [("total", decimal id.parts.total.toNat),
      ("hash", spelling.hex id.parts.hash)])]

def PublicKey.write (key : PublicKey) : Json :=
  ofFields [("type", Json.string spelling.keyType), ("value", base64 key.data)]

def Signature.write (signature : Signature) : Json :=
  match spelling.signatureType with
  | none => base64 signature.data
  | some kind => ofFields [("type", Json.string kind), ("value", base64 signature.data)]

/-- A member of a validator set; its name is not written. -/
def Validator.write (validator : Validator) : Json :=
  ofFields [("address", validator.address.map spelling.hex),
    ("pub_key", validator.publicKey.write spelling),
    ("voting_power", decimal validator.votingPower.toInt),
    ("accum", validator.accum.map fun accum => decimal accum.toInt)]

def Evidence.write (evidence : Evidence) : Json :=
  ofFields [("type", Json.string evidence.kind),
    ("validator", evidence.validator.write spelling),
    ("height", decimal evidence.height.toNat), ("time", decimal evidence.time.toNat),
    ("totalVotingPower", decimal evidence.totalVotingPower.toNat)]

/-- A header with its time in a text. -/
def Header.write (header : Header) (time : String) : Json :=
  ofFields [("chain_id", Json.string header.chainId), ("height", decimal header.height.toNat),
    ("time", Json.string time), ("num_txs", decimal header.numTxs.toNat),
    ("total_txs", decimal header.totalTxs.toNat),
    ("last_block_id", header.lastBlockId.write spelling),
    ("last_commit_hash", spelling.hex header.lastCommitHash),
    ("data_hash", spelling.hex header.dataHash),
    ("validators_hash", spelling.hex header.validatorsHash),
    ("consensus_hash", spelling.hex header.consensusHash),
    ("app_hash", spelling.hex header.appHash),
    ("last_results_hash", spelling.hex header.lastResultsHash),
    ("evidence_hash", spelling.hex header.evidenceHash)]

def Header.Written (header : Header) (json : Json) : Prop :=
  ∃ time, Timestamp.ofText time = .ok header.time ∧ json = header.write spelling time

def Vote.write (vote : Vote) (timestamp : String) : Json :=
  ofFields [("type", decimal vote.kind.toNat),
    ("validator_address", spelling.hex vote.validatorAddress),
    ("validator_index", decimal vote.validatorIndex.toNat),
    ("height", decimal vote.height.toNat), ("round", decimal vote.round.toNat),
    ("timestamp", Json.string timestamp), ("block_id", vote.blockId.write spelling),
    ("signature", vote.signature.write spelling)]

def Vote.Written (vote : Vote) (json : Json) : Prop :=
  ∃ timestamp, Timestamp.ofText timestamp = .ok vote.timestamp ∧
    json = vote.write spelling timestamp

/-- A vote at its position, or `null` for a gap. -/
def Commit.WrittenAt : Option Vote → Json → Prop
  | none, json => json = .null
  | some vote, json => vote.Written spelling json

def Commit.write (commit : Commit) (votes : List Json) : Json :=
  ofFields [("block_id", commit.blockId.write spelling), ("precommits", Json.array votes)]

def Commit.Written (commit : Commit) (json : Json) : Prop :=
  ∃ votes, List.Forall₂ (WrittenAt spelling) commit.precommits votes ∧
    json = commit.write spelling votes

/-- Absent evidence is left out, with the object around it or from within it. -/
def Block.evidenceField (block : Block) : Option Json :=
  match block.evidence with
  | none => if spelling.evidenceShell then some (ofFields []) else none
  | some evidence => ofFields [("evidence", Json.array (evidence.map (Evidence.write spelling)))]

def Block.write (block : Block) (header lastCommit : Json) : Json :=
  ofFields [("header", header), ("data", ofFields [("txs", spelling.list base64 block.txs)]),
    ("evidence", block.evidenceField spelling), ("last_commit", lastCommit)]

def Block.Written (block : Block) (json : Json) : Prop :=
  ∃ header lastCommit, block.header.Written spelling header ∧
    block.lastCommit.Written spelling lastCommit ∧ json = block.write spelling header lastCommit

def BlockMeta.write (blockMeta : BlockMeta) (header : Json) : Json :=
  ofFields [("block_id", blockMeta.blockId.write spelling), ("header", header)]

def BlockMeta.Written (blockMeta : BlockMeta) (json : Json) : Prop :=
  ∃ header, blockMeta.header.Written spelling header ∧ json = blockMeta.write spelling header

def IdentifiedBlock.Written (identified : IdentifiedBlock) (json : Json) : Prop :=
  ∃ blockMeta block, identified.blockMeta.Written spelling blockMeta ∧
    identified.block.Written spelling block ∧
    json = ofFields [("block_meta", blockMeta), ("block", block)]

def BlockRange.Written (range : BlockRange) (json : Json) : Prop :=
  ∃ metas, List.Forall₂ (BlockMeta.Written spelling) range.metas metas ∧
    json = ofFields [("last_height", decimal range.lastHeight.toNat),
      ("block_metas", Json.array metas)]

def SignedHeader.Written (signed : SignedHeader) (json : Json) : Prop :=
  ∃ header commit, signed.header.Written spelling header ∧ signed.commit.Written spelling commit ∧
    json = ofFields [("signed_header", ofFields [("header", header), ("commit", commit)]),
      ("canonical", Json.bool signed.canonical)]

/-- Evidence is held against validators with an address and without a name. -/
def Block.Accountable (block : Block) : Prop :=
  ∀ evidence ∈ block.evidence, ∀ e ∈ evidence,
    e.validator.address.isSome ∧ e.validator.name = none

section Reading

variable {spelling} (name : String) {json : Json}

@[simp] theorem BlockId.decode_write (id : BlockId) :
    BlockId.schema.decode name (id.write spelling) = .ok id := by
  simp [schema, write]

@[simp] theorem PublicKey.decode_write (key : PublicKey) :
    (PublicKey.schema dialect).decode name (key.write spelling) = .ok key := by
  simp [schema, write]

@[simp] theorem Signature.decode_write (signature : Signature) :
    Signature.schema.decode name (signature.write spelling) = .ok signature := by
  simp only [schema, write, Schema.decode_map]
  cases spelling.signatureType with
  | none =>
    have text : (Schema.textOrObject (.leaf .base64) (Schema.field "value" .base64)).decode name
        (base64 signature.data) = .ok signature.data := Leaf.read_base64 name signature.data
    simp only [text]
  | some kind => simp

@[simp] theorem BlockId.unlessNull_write (id : BlockId) :
    Json.unlessNull (id.write spelling) = some (id.write spelling) := rfl

@[simp] theorem PublicKey.unlessNull_write (key : PublicKey) :
    Json.unlessNull (key.write spelling) = some (key.write spelling) := rfl

@[simp] theorem Validator.unlessNull_write (validator : Validator) :
    Json.unlessNull (validator.write spelling) = some (validator.write spelling) := rfl

@[simp] theorem Signature.unlessNull_write (signature : Signature) :
    Json.unlessNull (signature.write spelling) = some (signature.write spelling) := by
  rw [write]
  cases spelling.signatureType <;> rfl

theorem Validator.decode_write {validator : Validator} (addressed : validator.address.isSome)
    (nameless : validator.name = none) :
    (Validator.memberSchema dialect).decode name (validator.write spelling) = .ok validator := by
  obtain ⟨address, key, power, _, accum⟩ := validator
  obtain ⟨address, rfl⟩ := Option.isSome_iff_exists.1 addressed
  subst nameless
  cases accum with
  | none => simp [memberSchema, updateSchema, write]
  | some accum => simp [memberSchema, updateSchema, write]

theorem Evidence.decode_write {evidence : Evidence}
    (addressed : evidence.validator.address.isSome) (nameless : evidence.validator.name = none) :
    (Evidence.schema dialect).decode name (evidence.write spelling) = .ok evidence := by
  simp [schema, write, Validator.decode_write "validator" addressed nameless]

theorem Header.Written.decode {header : Header} (h : header.Written spelling json) :
    Header.schema.decode name json = .ok header := by
  obtain ⟨time, text, rfl⟩ := h
  simp [schema, write, Leaf.read_time "time" text]

theorem Header.Written.unlessNull {header : Header} (h : header.Written spelling json) :
    Json.unlessNull json = some json := by
  obtain ⟨time, -, rfl⟩ := h
  rfl

theorem Vote.Written.decode {vote : Vote} (h : vote.Written spelling json) :
    Vote.schema.decode name json = .ok vote := by
  obtain ⟨timestamp, text, rfl⟩ := h
  simp [schema, write, Leaf.read_time "timestamp" text]

theorem Vote.Written.unlessNull {vote : Vote} (h : vote.Written spelling json) :
    Json.unlessNull json = some json := by
  obtain ⟨timestamp, -, rfl⟩ := h
  rfl

theorem Commit.decode_votes {precommits : List (Option Vote)} {votes : List Json}
    (h : List.Forall₂ (WrittenAt spelling) precommits votes) :
    (Schema.gaps Vote.schema).decode name (.array votes) = .ok precommits := by
  rw [Schema.decode]
  refine Schema.eachItem_eq_ok.2 (h.imp ?_)
  rintro (_ | vote) json written
  · rw [WrittenAt] at written
    rw [written]
    rfl
  · have vote : vote.Written spelling json := written
    rw [Schema.gapOr_of_unlessNull vote.unlessNull, vote.decode]
    rfl

/-- The gaps among the votes are where `null` stands. -/
theorem Commit.null_iff {precommits : List (Option Vote)} {votes : List Json}
    (h : List.Forall₂ (WrittenAt spelling) precommits votes) (position : Nat) :
    votes[position]? = some .null ↔ precommits[position]? = some none := by
  induction h generalizing position with
  | nil => simp
  | @cons vote json _ _ written _ ih =>
    cases position with
    | succ position => simpa using ih position
    | zero =>
      cases vote with
      | none =>
        rw [WrittenAt] at written
        simp [written]
      | some vote =>
        have voted : vote.Written spelling json := written
        have shown := voted.unlessNull
        simp only [List.getElem?_cons_zero, Option.some.injEq, reduceCtorEq, iff_false]
        rintro rfl
        cases shown

theorem Commit.Written.decode {commit : Commit} (h : commit.Written spelling json) :
    Commit.schema.decode name json = .ok commit := by
  obtain ⟨votes, written, rfl⟩ := h
  simp [schema, write, Commit.decode_votes "precommits" written]

theorem Commit.Written.unlessNull {commit : Commit} (h : commit.Written spelling json) :
    Json.unlessNull json = some json := by
  obtain ⟨votes, -, rfl⟩ := h
  rfl

theorem Block.decode_evidence {block : Block} (accountable : block.Accountable)
    (found : json.get? "evidence" = Json.pick (block.evidenceField spelling) none) :
    ∃ evidence,
      (Schema.optional "evidence" (.optional "evidence" (.items (Evidence.schema dialect)))).decode
        name json = .ok evidence ∧ evidence.join = block.evidence := by
  rw [Schema.decode_optional, found, evidenceField]
  cases held : block.evidence with
  | none =>
    -- The object around the evidence is optional, and so is the list in it.
    by_cases shell : spelling.evidenceShell = true
    · exact ⟨some none, by simp [shell], rfl⟩
    · exact ⟨none, by simp [shell], rfl⟩
  | some evidence =>
    have items : (Schema.items (Evidence.schema dialect)).decode "evidence"
        (.array (evidence.map (Evidence.write spelling))) = .ok evidence :=
      Schema.decode_items fun e he =>
        have ⟨addressed, nameless⟩ := accountable evidence held e he
        Evidence.decode_write "evidence" addressed nameless
    exact ⟨some (some evidence), by simp [items], rfl⟩

theorem Block.Written.decode {block : Block} (accountable : block.Accountable)
    (h : block.Written spelling json) : (Block.schema dialect).decode name json = .ok block := by
  obtain ⟨header, lastCommit, writtenHeader, writtenCommit, fields⟩ := h
  have found : json.get? "evidence" = Json.pick (block.evidenceField spelling) none := by
    simp [fields, write]
  obtain ⟨evidence, decoded, joined⟩ := decode_evidence name accountable found
  have txs : (Schema.listOrEmpty "txs" (.leaf .base64)).decode "data"
      (ofFields [("txs", spelling.list base64 block.txs)]) = .ok block.txs :=
    spelling.decode_listOrEmpty (by simp) fun tx _ => Leaf.read_base64 "txs" tx
  simp only [schema, Schema.decode_seqRight, Schema.decode_seq, decoded]
  simp [fields, write, writtenHeader.unlessNull, writtenHeader.decode, writtenCommit.unlessNull,
    writtenCommit.decode, txs, joined]

theorem Block.Written.unlessNull {block : Block} (h : block.Written spelling json) :
    Json.unlessNull json = some json := by
  obtain ⟨header, lastCommit, -, -, rfl⟩ := h
  rfl

theorem BlockMeta.Written.decode {blockMeta : BlockMeta} (h : blockMeta.Written spelling json) :
    BlockMeta.schema.decode name json = .ok blockMeta := by
  obtain ⟨header, written, rfl⟩ := h
  simp [schema, write, written.unlessNull, written.decode]

theorem BlockMeta.Written.unlessNull {blockMeta : BlockMeta} (h : blockMeta.Written spelling json) :
    Json.unlessNull json = some json := by
  obtain ⟨header, -, rfl⟩ := h
  rfl

theorem IdentifiedBlock.Written.decode {identified : IdentifiedBlock}
    (accountable : identified.block.Accountable) (h : identified.Written spelling json) :
    (IdentifiedBlock.schema dialect).decode name json = .ok identified := by
  obtain ⟨blockMeta, block, writtenMeta, writtenBlock, rfl⟩ := h
  simp [schema, writtenMeta.unlessNull, writtenMeta.decode, writtenBlock.unlessNull,
    writtenBlock.decode _ accountable]

theorem BlockRange.Written.decode {range : BlockRange} (h : range.Written spelling json) :
    BlockRange.schema.decode name json = .ok range := by
  obtain ⟨metas, written, rfl⟩ := h
  have items : (Schema.items BlockMeta.schema).decode "block_metas" (.array metas) =
      .ok range.metas := by
    rw [Schema.decode]
    exact Schema.eachItem_eq_ok.2 (written.imp fun _ _ one => one.decode "block_metas")
  simp [schema, Schema.listOf, items]

theorem SignedHeader.Written.decode {signed : SignedHeader} (h : signed.Written spelling json) :
    SignedHeader.schema.decode name json = .ok signed := by
  obtain ⟨header, commit, writtenHeader, writtenCommit, rfl⟩ := h
  simp [schema, writtenHeader.unlessNull, writtenHeader.decode, writtenCommit.unlessNull,
    writtenCommit.decode]

end Reading

/-- Whatever a node writes about blocks is read as what it was, in both versions and for every
way of spelling it: a block, a range of blocks, a commit, and an announced block or header. The
votes of a commit are as many as the items they stand in, and none where the item is `null`. -/
theorem blocks_round_trip (version : Version) (spelling : Spelling version.dialect) (json : Json) :
    (∀ identified : IdentifiedBlock, identified.block.Accountable →
      identified.Written spelling json → Answer.block.read version json = .ok identified) ∧
    (∀ range : BlockRange, range.Written spelling json →
      Answer.blockchain.read version json = .ok range) ∧
    (∀ signed : SignedHeader, signed.Written spelling json →
      Answer.commit.read version json = .ok signed) ∧
    (∀ (block : Block) (query : Option String) (kind : String), block.Accountable →
      block.Written spelling json →
      Announcement.block.read version ⟨query, kind, ofFields [("block", json)]⟩ = .ok block) ∧
    (∀ (header : Header) (query : Option String) (kind : String), header.Written spelling json →
      Announcement.header.read version ⟨query, kind, ofFields [("header", json)]⟩ = .ok header) ∧
    (∀ commit : Commit, commit.Written spelling json →
      ∃ votes, json.get? "precommits" = some (.array votes) ∧
        votes.length = commit.precommits.length ∧
        ∀ position : Nat,
          votes[position]? = some .null ↔ commit.precommits[position]? = some none) := by
  refine ⟨fun identified accountable written => written.decode "result" accountable,
    fun range written => written.decode "result", fun signed written => written.decode "result",
    ?_, ?_, ?_⟩
  · intro block query kind accountable written
    exact Announcement.block.read_of_subject version
      (by simp [Announcement.kind, EventKind.subject, written.unlessNull])
      (written.decode "block" accountable)
  · intro header query kind written
    exact Announcement.header.read_of_subject version
      (by simp [Announcement.kind, EventKind.subject, written.unlessNull])
      (written.decode "header")
  · rintro commit ⟨votes, written, rfl⟩
    exact ⟨votes, by simp [Commit.write], written.length_eq.symm, Commit.null_iff written⟩

section Sample

/-- A node of version 0.25 that wraps its signatures. -/
def Spelling.wrapping : Spelling Version.v0_25.dialect where
  lowerHex := true
  zeroLeftOut := false
  emptyAsNull := false
  evidenceShell := true
  keyType := Version.commonKeyType
  keyType_mem := by decide
  signatureType := some "tendermint/SignatureEd25519"

def BlockId.sample : BlockId := ⟨[0xaa], ⟨1, [0xbb]⟩⟩

def Header.sample : Header where
  chainId := "chain"
  height := 2
  time := ⟨⟨2018, 11, 13⟩, 14, 51, 43, 165423645, 0⟩
  numTxs := 1
  totalTxs := 3
  lastBlockId := .sample
  appHash := [0x01]
  consensusHash := [0x02]
  dataHash := [0x03]
  evidenceHash := []
  lastCommitHash := [0x05]
  lastResultsHash := []
  validatorsHash := [0x07]

def Vote.sample : Vote where
  kind := 2
  validatorAddress := [0x11]
  validatorIndex := 1
  height := 1
  round := 0
  timestamp := ⟨⟨2018, 11, 13⟩, 16, 51, 42, 0, 120⟩
  blockId := .sample
  signature := ⟨[0xff, 0x00]⟩

/-- One of two validators has voted. -/
def Commit.sample : Commit := ⟨.sample, [none, some .sample]⟩

def Block.sample : Block where
  header := .sample
  lastCommit := .sample
  txs := [[0x61]]
  evidence := some [⟨"duplicate", ⟨some [0x11], ⟨[0x22]⟩, 10, none, some (-5)⟩, 1, 0, 10⟩]

def Header.sampleJson : Json := Header.sample.write .wrapping "2018-11-13T14:51:43.165423645Z"

def Commit.sampleJson : Json :=
  Commit.sample.write .wrapping [.null, Vote.sample.write .wrapping "2018-11-13T16:51:42+02:00"]

def Block.sampleJson : Json := Block.sample.write .wrapping Header.sampleJson Commit.sampleJson

def BlockMeta.sampleJson : Json := BlockMeta.write .wrapping ⟨.sample, .sample⟩ Header.sampleJson

theorem Header.written_sample : Header.sample.Written .wrapping Header.sampleJson :=
  ⟨_, by decide, rfl⟩

theorem Commit.written_sample : Commit.sample.Written .wrapping Commit.sampleJson := by
  have vote : WrittenAt .wrapping (some .sample)
      (Vote.sample.write .wrapping "2018-11-13T16:51:42+02:00") := ⟨_, by decide, rfl⟩
  exact ⟨_, .cons rfl (.cons vote .nil), rfl⟩

theorem Block.written_sample : Block.sample.Written .wrapping Block.sampleJson :=
  ⟨_, _, Header.written_sample, Commit.written_sample, rfl⟩

theorem Block.accountable_sample : Block.sample.Accountable := by
  rintro _ ⟨⟩ e he
  obtain rfl := List.mem_singleton.1 he
  exact ⟨rfl, rfl⟩

theorem sample_blocks_round_trip :
    Answer.block.read .v0_25
        (ofFields [("block_meta", BlockMeta.sampleJson), ("block", Block.sampleJson)]) =
      .ok ⟨⟨.sample, .sample⟩, .sample⟩ ∧
    Answer.blockchain.read .v0_25
        (ofFields [("last_height", decimal 2), ("block_metas", Json.array [BlockMeta.sampleJson])]) =
      .ok ⟨2, [⟨.sample, .sample⟩]⟩ ∧
    Answer.commit.read .v0_25
        (ofFields [("signed_header",
            ofFields [("header", Header.sampleJson), ("commit", Commit.sampleJson)]),
          ("canonical", Json.bool true)]) = .ok ⟨true, .sample, .sample⟩ ∧
    Announcement.block.read .v0_25
        ⟨none, "tendermint/event/NewBlock", ofFields [("block", Block.sampleJson)]⟩ = .ok .sample ∧
    Announcement.header.read .v0_25
        ⟨none, "tendermint/event/NewBlockHeader", ofFields [("header", Header.sampleJson)]⟩ =
      .ok .sample ∧
    ∃ votes, Commit.sampleJson.get? "precommits" = some (.array votes) ∧ votes.length = 2 ∧
      ∀ position : Nat,
        votes[position]? = some .null ↔ Commit.sample.precommits[position]? = some none := by
  have writtenMeta : BlockMeta.Written .wrapping ⟨.sample, .sample⟩ BlockMeta.sampleJson :=
    ⟨_, Header.written_sample, rfl⟩
  have round := blocks_round_trip .v0_25 .wrapping
  exact ⟨(round _).1 _ Block.accountable_sample ⟨_, _, writtenMeta, Block.written_sample, rfl⟩,
    (round _).2.1 _ ⟨_, .cons writtenMeta .nil, rfl⟩,
    (round _).2.2.1 _ ⟨_, _, Header.written_sample, Commit.written_sample, rfl⟩,
    (round _).2.2.2.1 _ _ _ Block.accountable_sample Block.written_sample,
    (round _).2.2.2.2.1 _ _ _ Header.written_sample,
    (round _).2.2.2.2.2 _ Commit.written_sample⟩

end Sample

end Tendermint
