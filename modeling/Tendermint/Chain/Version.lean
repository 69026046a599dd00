import Tendermint.Text.Blank
import Tendermint.Digest.LengthPrefix
import Tendermint.Digest.Ripemd160
import Tendermint.Digest.Sha256
import Tendermint.Chain.Tx

/-!
# Tendermint.Chain.Version

The protocol versions that are understood, what tells them apart on the wire, and how each one
hashes a transaction.

* `Version.detect?`: the version of a node, from the version text that the node reports.
* `Version.ofText?`: also takes the short name on its own.
* `Version.dialect`, `Version.hashTx`.
-/

namespace Tendermint

/-- A protocol version. -/
inductive Version where
  | v0_20
  | v0_25
  deriving DecidableEq, Repr

/-- Where a transaction's proof keeps its two counters. -/
inductive ProofLayout where
  /-- `Total` and `Index` beside the inner proof. -/
  | beside
  /-- `total` and `index` inside it, or else beside it. -/
  | inside
  deriving DecidableEq, Repr

/-- How an application query asks for a proof. -/
inductive ProveFlag where
  /-- `trusted`, which is true when no proof is wanted. -/
  | trusted
  /-- `prove`. -/
  | prove
  deriving DecidableEq, Repr

/-- What a protocol version spells in its own way. -/
structure Dialect where
  keyTypes : List String
  syncFlag : String
  proofLayout : ProofLayout
  proveFlag : ProveFlag
  deriving DecidableEq, Repr

namespace Version

/-- The key type that both versions know. -/
def commonKeyType : String := "tendermint/PubKeyEd25519"

def dialect : Version → Dialect
  | .v0_20 => ⟨["AC26791624DE60", commonKeyType], "syncing", .beside, .trusted⟩
  | .v0_25 => ⟨[commonKeyType], "catching_up", .inside, .prove⟩

/-- How many bytes of a long digest make a transaction hash. -/
def hashLength : Nat := 20

/-- The hash of a transaction: RIPEMD-160 over the transaction behind its length, or the first
twenty bytes of its SHA-256. -/
def hashTx : Version → Bytes → TxHash
  | .v0_20, tx => ⟨Digest.Ripemd160.hash (Digest.withLength tx)⟩
  | .v0_25, tx => ⟨(Digest.Sha256.hash tx).take hashLength⟩

/-- The short name. -/
def name : Version → String
  | .v0_20 => "0.20"
  | .v0_25 => "0.25"

instance : ToString Version := ⟨name⟩

def all : List Version := [.v0_20, .v0_25]

/-- A version text without white space around it and without one leading `v`. -/
def normalized (text : String) : List Char :=
  match Text.trim text.toList with
  | 'v' :: rest => rest
  | text => text

/-- The version whose short name, and then a dot, begins the version text of a node. -/
def detect? (text : String) : Option Version :=
  all.find? fun version => (version.name.toList ++ ['.']).isPrefixOf (normalized text)

/-- The version with this short name, or that of a node with this version text. -/
def ofText? (text : String) : Option Version :=
  match all.find? fun version => normalized text = version.name.toList with
  | some version => some version
  | none => detect? text

end Version

end Tendermint
