import Tendermint.Proofs.Schema.Vacancy
import Tendermint.Proofs.Answer.Structure

/-!
# Tendermint.Proofs.Answer.Vacancies

Which parts of an answer or an event may be empty, record by record: the member that each of them
is read of, and what is left without it.

* `Answer.vacancies`, `Announcement.vacancies`.
-/

namespace Tendermint

open Json (Path)

def TxOutcome.vacancies : List (Vacancy schema) :=
  [.behind [] "code" (fun outcome => { outcome with code := 0 }) fun _ => rfl,
    .behind [] "log" (fun outcome => { outcome with log := none }) fun _ => rfl,
    .behind [] "data" (fun outcome => { outcome with data := none }) fun _ => rfl,
    .behind [] "tags" (fun outcome => { outcome with tags := none }) fun _ => rfl]

def Submission.vacancies : List (Vacancy schema) :=
  TxOutcome.vacancies.map (.within []
    (fun f submission => { submission with outcome := f submission.outcome })
    fun path key clear h found => by
      obtain ⟨⟨_, outcome⟩, _, hash⟩ := found
      change Submission.mk (Schema.build _ (Schema.clear _ path key outcome))
        ⟨Schema.build _ (Schema.clear _ path key hash)⟩ = _
      rw [h, Schema.clear_field]
      rfl)

def Inclusion.vacancies : List (Vacancy schema) :=
  .behind [] "height" (fun inclusion => { inclusion with height := none }) (fun _ => rfl) ::
  TxOutcome.vacancies.map (.within ["check_tx"]
    (fun f inclusion => { inclusion with check := f inclusion.check })
    fun _ _ _ h found =>
      congrArg (fun check => { schema.build found with check }) (h _)) ++
  .behind [] "deliver_tx" (fun inclusion => { inclusion with delivery := none }) (fun _ => rfl) ::
  TxOutcome.vacancies.map (.within ["deliver_tx"]
    (fun f inclusion => { inclusion with delivery := inclusion.delivery.map f })
    fun _ _ _ h found =>
      congrArg (fun delivery => { schema.build found with delivery }) (h.option _))

def TxEvent.vacancies (hashTx : Bytes → TxHash) : List (Vacancy (schema hashTx)) :=
  TxOutcome.vacancies.map (.within ["result"]
    (fun f event => { event with outcome := f event.outcome })
    fun _ _ _ h found =>
      congrArg (fun outcome => { (schema hashTx).build found with outcome }) (h _))

variable (dialect : Dialect)

theorem TxProof.build_clear_counter (layout : ProofLayout) (inner outer : String) (path : Path)
    (key : String) (found : (counterSchema layout inner outer).Found) :
    (counterSchema layout inner outer).build
        ((counterSchema layout inner outer).clear path key found) =
      (counterSchema layout inner outer).build found := by
  cases layout with
  | beside => exact congrArg _ (Schema.clear_field outer .u64 path key found)
  | inside => rfl

def TxProof.vacancies : List (Vacancy (schema dialect)) :=
  [.within ["Proof"] (fun f proof => { proof with aunts := f proof.aunts })
    (fun path key clear h found => by
      change TxProof.mk _ _ (Schema.build _ (Schema.clear _ _ _ _))
        (Schema.build _ (Schema.clear _ _ _ _)) (Schema.build _ (Schema.clear _ path key _)) = _
      rw [build_clear_counter, build_clear_counter]
      exact congrArg (fun aunts => { (schema dialect).build found with aunts }) (h _))
    (.behind [] "aunts" (fun _ => []) fun _ => rfl :
      Vacancy (.listOrEmpty "aunts" (.leaf .base64)))]

def TxRecord.vacancies : List (Vacancy (schema dialect)) :=
  TxOutcome.vacancies.map (.within ["tx_result"]
    (fun f record => { record with outcome := f record.outcome })
    fun _ _ _ h found =>
      congrArg (fun outcome => { (schema dialect).build found with outcome }) (h _)) ++
  .behind [] "proof" (fun record => { record with proof := none }) (fun _ => rfl) ::
  (TxProof.vacancies dialect).map (.within ["proof"]
    (fun f record => { record with proof := record.proof.map f })
    fun _ _ _ h found =>
      congrArg (fun proof => { (schema dialect).build found with proof }) (h.option _))

def TxMatches.vacancies : List (Vacancy (schema dialect)) :=
  (TxRecord.vacancies dialect).map (.each ["txs"] (fun f found => { found with txs := f found.txs })
    fun i _ _ _ h found =>
      congrArg (fun txs => { (schema dialect).build found with txs }) (h.list i _))

namespace Validator

def genesisVacancies : List (Vacancy (genesisSchema dialect)) :=
  [.behind [] "address" (fun validator => { validator with address := none }) fun _ => rfl,
    .behind [] "name" (fun validator => { validator with name := none }) fun _ => rfl]

def updateVacancies : List (Vacancy (updateSchema dialect)) :=
  [.behind [] "address" (fun validator => { validator with address := none }) fun _ => rfl]

def memberVacancies : List (Vacancy (memberSchema dialect)) :=
  [.behind [] "accum" (fun validator => { validator with accum := none }) fun _ => rfl]

end Validator

def Evidence.vacancies : List (Vacancy (schema dialect)) :=
  (Validator.memberVacancies dialect).map (.within ["validator"]
    (fun f evidence => { evidence with validator := f evidence.validator })
    fun _ _ _ h found =>
      congrArg (fun validator => { (schema dialect).build found with validator }) (h _))

/-- The inner member of the two that hold the evidence. -/
def Block.evidenceVacancies :
    List (Vacancy (.optional "evidence" (.items (Evidence.schema dialect)))) :=
  .behind [] "evidence" (fun _ => none) (fun _ => rfl) ::
  (Evidence.vacancies dialect).map (.each ["evidence"] Option.map
    fun i _ _ _ h found =>
      match found with
      | none => rfl
      | some found => congrArg some (h.list i found))

def Block.vacancies : List (Vacancy (schema dialect)) :=
  .behind ["data"] "txs" (fun block => { block with txs := [] }) (fun _ => rfl) ::
  .behind [] "evidence" (fun block => { block with evidence := none }) (fun _ => rfl) ::
  (evidenceVacancies dialect).map (.within ["evidence"]
    (fun f block => { block with evidence := f block.evidence })
    fun _ _ _ h found =>
      congrArg (fun evidence => { (schema dialect).build found with evidence }) (h.join _))

def IdentifiedBlock.vacancies : List (Vacancy (schema dialect)) :=
  (Block.vacancies dialect).map (.within ["block"]
    (fun f identified => { identified with block := f identified.block })
    fun _ _ _ h found =>
      congrArg (fun block => { (schema dialect).build found with block }) (h _))

def EndBlock.vacancies : List (Vacancy (schema dialect)) :=
  .behind [] "validator_updates" (fun ending => { ending with validatorUpdates := [] })
    (fun _ => rfl) ::
  (Validator.updateVacancies dialect).map (.each ["validator_updates"]
    (fun f ending => { ending with validatorUpdates := f ending.validatorUpdates })
    fun i _ _ _ h found => congrArg
      (fun validatorUpdates => { (schema dialect).build found with validatorUpdates })
      (h.listOrEmpty i _)) ++
  [.behind [] "consensus_param_updates" (fun ending => { ending with consensusUpdates := none })
    fun _ => rfl,
  .behind [] "tags" (fun ending => { ending with tags := none }) fun _ => rfl]

def BlockOutcome.vacancies : List (Vacancy (schema dialect)) :=
  .behind ["results"] "DeliverTx" (fun outcome => { outcome with txs := [] }) (fun _ => rfl) ::
  TxOutcome.vacancies.map (.each ["results", "DeliverTx"]
    (fun f outcome => { outcome with txs := f outcome.txs })
    fun i _ _ _ h found =>
      congrArg (fun txs => { (schema dialect).build found with txs }) (h.listOrEmpty i _)) ++
  (EndBlock.vacancies dialect).map (.within ["results", "EndBlock"]
    (fun f outcome => { outcome with endBlock := f outcome.endBlock })
    fun _ _ _ h found =>
      congrArg (fun endBlock => { (schema dialect).build found with endBlock }) (h _))

def SyncInfo.vacancies : List (Vacancy (schema dialect)) :=
  [.behind [] dialect.syncFlag (fun sync => { sync with catchingUp := false }) fun found =>
    let flag := Schema.optional dialect.syncFlag (.leaf .bool)
    have gone : ∀ held, flag.clear [] dialect.syncFlag held = none := fun _ => if_pos rfl
    congrArg (fun held => { (schema dialect).build found with
      catchingUp := (flag.build held).getD false }) (gone _)]

def Status.vacancies : List (Vacancy (schema dialect)) :=
  (SyncInfo.vacancies dialect).map (.within ["sync_info"]
    (fun f status => { status with sync := f status.sync })
    fun _ _ _ h found =>
      congrArg (fun sync => { (schema dialect).build found with sync }) (h _))

def Genesis.vacancies : List (Vacancy (schema dialect)) :=
  (Validator.genesisVacancies dialect).map (.each ["genesis", "validators"]
    (fun f genesis => { genesis with validators := f genesis.validators })
    fun i _ _ _ h found =>
      congrArg (fun validators => { (schema dialect).build found with validators }) (h.list i _)) ++
  [.behind ["genesis"] "app_state" (fun genesis => { genesis with appState := none }) fun _ => rfl]

def ValidatorSet.vacancies : List (Vacancy (schema dialect)) :=
  (Validator.memberVacancies dialect).map (.each ["validators"]
    (fun f set => { set with validators := f set.validators })
    fun i _ _ _ h found =>
      congrArg (fun validators => { (schema dialect).build found with validators }) (h.list i _))

def AppInfo.vacancies : List (Vacancy schema) :=
  [.behind ["response"] "data" (fun info => { info with data := none }) fun _ => rfl,
    .behind ["response"] "last_block_height" (fun info => { info with lastBlockHeight := none })
      fun _ => rfl,
    .behind ["response"] "last_block_app_hash" (fun info => { info with lastBlockAppHash := none })
      fun _ => rfl]

def AppAnswer.vacancies : List (Vacancy schema) :=
  [.behind ["response"] "key" (fun answer => { answer with key := [] }) fun _ => rfl,
    .behind ["response"] "value" (fun answer => { answer with value := [] }) fun _ => rfl,
    .behind ["response"] "height" (fun answer => { answer with height := none }) fun _ => rfl,
    .behind ["response"] "index" (fun answer => { answer with index := none }) fun _ => rfl,
    .behind ["response"] "code" (fun answer => { answer with code := none }) fun _ => rfl,
    .behind ["response"] "log" (fun answer => { answer with log := none }) fun _ => rfl]

/-- The parts of an answer that may be empty. -/
def Answer.vacancies {α : Type} (version : Version) :
    (answer : Answer α) → List (Vacancy (answer.schema version))
  | .health => []
  | .status => Status.vacancies version.dialect
  | .appInfo => AppInfo.vacancies
  | .appQuery => AppAnswer.vacancies
  | .block => IdentifiedBlock.vacancies version.dialect
  | .blockResults => BlockOutcome.vacancies version.dialect
  | .blockchain => []
  | .commit => []
  | .genesis => Genesis.vacancies version.dialect
  | .validators => ValidatorSet.vacancies version.dialect
  | .submit => Submission.vacancies
  | .submitAsync => Submission.vacancies
  | .submitCommit => Inclusion.vacancies
  | .tx => TxRecord.vacancies version.dialect
  | .txSearch => TxMatches.vacancies version.dialect

/-- The parts of an event that may be empty. -/
def Announcement.vacancies {α : Type} (version : Version) :
    (announcement : Announcement α) → List (Vacancy (announcement.payloadSchema version))
  | .block => (Block.vacancies version.dialect).map (.required "block")
  | .header => []
  | .tx => (TxEvent.vacancies version.hashTx).map (.required "TxResult")

end Tendermint
