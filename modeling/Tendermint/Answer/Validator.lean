import Tendermint.Schema.Basic
import Tendermint.Chain.Version
import Tendermint.Chain.Validator

/-!
# Tendermint.Answer.Validator

How validators and the parameters of consensus are laid out on the wire. The same validator
looks different in the genesis document, in a validator set, in the status of a node and among
the updates at the end of a block.
-/

namespace Tendermint

open Schema (field optionalField required optional present)

/-- The type is checked before the key is read. -/
def PublicKey.schema (dialect : Dialect) : Schema PublicKey :=
  field "type" (.keyType dialect.keyTypes) *> (PublicKey.mk <$> field "value" .base64)

/-- A signature as base64 text, or wrapped in an object. -/
def Signature.schema : Schema Signature :=
  Signature.mk <$> .textOrObject (.leaf .base64) (field "value" .base64)

namespace Validator

def genesisSchema (dialect : Dialect) : Schema Validator :=
  (fun address key power name => Validator.mk address key power name none)
    <$> optionalField "address" .hex
    <*> required "pub_key" (PublicKey.schema dialect)
    <*> field "power" .i64
    <*> optionalField "name" .string

/-- A change of the validator set, which may spell the power in either of two ways and may
leave the address out. -/
def updateSchema (dialect : Dialect) : Schema Validator :=
  (fun power address key => Validator.mk address key power none none)
    <$> .orElse (optionalField "voting_power" .i64) (field "power" .i64)
    <*> optionalField "address" .hex
    <*> required "pub_key" (PublicKey.schema dialect)

/-- A member of a validator set, which always has an address. -/
def memberSchema (dialect : Dialect) : Schema Validator :=
  (fun address accum validator => { validator with address := some address, accum })
    <$> field "address" .hex
    <*> optionalField "accum" .i64
    <*> updateSchema dialect

/-- The validator of the node that answers. -/
def ownSchema (dialect : Dialect) : Schema Validator :=
  (fun address key power => Validator.mk (some address) key power none none)
    <$> field "address" .hex
    <*> required "pub_key" (PublicKey.schema dialect)
    <*> field "voting_power" .i64

end Validator

def BlockLimits.schema : Schema BlockLimits :=
  BlockLimits.mk <$> field "max_bytes" .u64 <*> field "max_gas" .i64

def EvidenceLimits.schema : Schema EvidenceLimits := EvidenceLimits.mk <$> field "max_age" .u64

namespace ConsensusParams

/-- The two names of the limits on blocks. -/
def blockNames : List String := ["block_size_params", "block_size"]

/-- The two names of the limits on evidence. -/
def evidenceNames : List String := ["evidence_params", "evidence"]

/-- Both groups must be there before either is read. -/
def schema : Schema ConsensusParams :=
  .member blockNames (.const ()) *> .member evidenceNames (.const ()) *>
    (ConsensusParams.mk
      <$> .member blockNames BlockLimits.schema
      <*> .member evidenceNames EvidenceLimits.schema)

end ConsensusParams

end Tendermint
