import Tendermint.Answer.Block
import Tendermint.Chain.Node

/-!
# Tendermint.Answer.Node

How a node lays out what it says of itself, of its application and of the start of its chain.
-/

namespace Tendermint

open Schema (field optionalField required optional defaulted listOf present)

def NodeInfo.schema : Schema NodeInfo :=
  NodeInfo.mk
    <$> field "id" .hex
    <*> field "listen_addr" .string
    <*> field "network" .string
    <*> field "version" .string
    <*> field "channels" .string
    <*> field "moniker" .string
    <*> field "other" .settings

def SyncInfo.schema (dialect : Dialect) : Schema SyncInfo :=
  SyncInfo.mk
    <$> field "latest_block_hash" .hex
    <*> field "latest_app_hash" .hex
    <*> field "latest_block_height" .u64
    <*> field "latest_block_time" .time
    <*> defaulted dialect.syncFlag false (.leaf .bool)

def Status.schema (dialect : Dialect) : Schema Status :=
  Status.mk
    <$> required "node_info" NodeInfo.schema
    <*> required "sync_info" (SyncInfo.schema dialect)
    <*> required "validator_info" (Validator.ownSchema dialect)

def Genesis.schema (dialect : Dialect) : Schema Genesis :=
  required "genesis"
    (Genesis.mk
      <$> field "genesis_time" .time
      <*> field "chain_id" .string
      <*> required "consensus_params" ConsensusParams.schema
      <*> listOf "validators" (Validator.genesisSchema dialect)
      <*> field "app_hash" .hex
      <*> optionalField "app_state" .json)

def ValidatorSet.schema (dialect : Dialect) : Schema ValidatorSet :=
  ValidatorSet.mk
    <$> field "block_height" .u64
    <*> listOf "validators" (Validator.memberSchema dialect)

def AppInfo.schema : Schema AppInfo :=
  required "response"
    (AppInfo.mk
      <$> optionalField "data" .string
      <*> optionalField "last_block_height" .u64
      <*> optionalField "last_block_app_hash" .base64)

def AppAnswer.schema : Schema AppAnswer :=
  required "response"
    (AppAnswer.mk
      <$> defaulted "key" [] (.leaf .base64)
      <*> defaulted "value" [] (.leaf .base64)
      <*> optionalField "height" .u64
      <*> optionalField "index" .u64
      <*> optionalField "code" .u32
      <*> optionalField "log" .string)

end Tendermint
