import Tendermint.Chain.Version
import Tendermint.Proofs.Schema.Decode

/-!
# Tendermint.Proofs.Answer.Spelling

How a node writes the leaves of an answer: hashes and addresses in hexadecimal, other bytes in
base64, integers in decimal text. Where the two sides agree on more than one way of writing, a
`Spelling` says which one the node takes; what is read does not depend on it.

* `Spelling`: the choices of a node.
* `Spelling.hex`, `Json.base64`, `Json.decimal`, `Spelling.list`: what is written.
* `Leaf.read_hex` and the lemmas after it: what is written is read back.
-/

namespace Tendermint

/-- What a version leaves to the node that writes. -/
structure Spelling (dialect : Dialect) where
  /-- Hexadecimal in lower case. -/
  lowerHex : Bool
  /-- The code zero is left out. -/
  zeroLeftOut : Bool
  /-- A list that is always there is `null` when it is empty. -/
  emptyAsNull : Bool
  /-- Absent evidence leaves the empty object around it behind. -/
  evidenceShell : Bool
  /-- The name of the key type, one of those that the version knows. -/
  keyType : String
  keyType_mem : keyType ∈ dialect.keyTypes
  /-- Signatures stand in an object with the name of their type, or else as bare text. -/
  signatureType : Option String

namespace Json

def base64 (bs : Bytes) : Json := .string (Base64.encode bs)

def decimal (n : Int) : Json := .string (toString n)

@[simp] theorem unlessNull_base64 (bs : Bytes) : unlessNull (base64 bs) = some (base64 bs) := rfl

@[simp] theorem unlessNull_decimal (n : Int) : unlessNull (decimal n) = some (decimal n) := rfl

end Json

namespace Spelling

variable {dialect : Dialect} (spelling : Spelling dialect)

def hex (bs : Bytes) : Json :=
  .string (if spelling.lowerHex then Hex.encode bs else Hex.encodeUpper bs)

@[simp] theorem unlessNull_hex (bs : Bytes) :
    Json.unlessNull (spelling.hex bs) = some (spelling.hex bs) := rfl

/-- The items of a list that is always there. -/
def list {α : Type} (write : α → Json) (l : List α) : Json :=
  if spelling.emptyAsNull ∧ l = [] then .null else .array (l.map write)

/-- An empty list is as good as an absent one. -/
theorem decode_listOrEmpty {α : Type} {item : Schema α} {write : α → Json} {l : List α}
    {name field : String} {value : Json}
    (found : value.get? field = Json.unlessNull (spelling.list write l))
    (back : ∀ a ∈ l, item.decode field (write a) = .ok a) :
    (Schema.listOrEmpty field item).decode name value = .ok l := by
  rw [Schema.listOrEmpty, Schema.defaulted, Schema.decode_map, Schema.decode_optional, found, list]
  by_cases empty : spelling.emptyAsNull = true ∧ l = []
  · rw [if_pos empty, empty.2]
    rfl
  · rw [if_neg empty, Json.unlessNull_array, Schema.optionally, Schema.decode_items back]
    rfl

end Spelling

namespace Leaf

variable (name : String)

@[simp] theorem read_hex {dialect : Dialect} (spelling : Spelling dialect) (bs : Bytes) :
    Leaf.hex.read name (spelling.hex bs) = .ok bs := by
  rw [Leaf.read, Spelling.hex]
  split
  · simp only [readHex, readString, Hex.decode_encode, Except.mapError]
  · simp only [readHex, readString, Hex.decode_encodeUpper, Except.mapError]

@[simp] theorem read_base64 (bs : Bytes) : Leaf.base64.read name (Json.base64 bs) = .ok bs := by
  simp only [Leaf.read, Json.base64, readBase64, readString, Base64.decode_encode, Except.mapError]

@[simp] theorem read_u32 (n : UInt32) : Leaf.u32.read name (Json.decimal n.toNat) = .ok n := by
  have h := readNat_toString name (by decide : UInt32.size ≤ UInt64.size) n.toNat_lt
  simp only [Leaf.read, Json.decimal, readU32, h, Except.map, UInt32.ofNat_toNat]

@[simp] theorem read_u64 (n : UInt64) : Leaf.u64.read name (Json.decimal n.toNat) = .ok n := by
  have h := readNat_toString name (Nat.le_refl UInt64.size) n.toNat_lt
  simp only [Leaf.read, Json.decimal, readU64, h, Except.map, UInt64.ofNat_toNat]

@[simp] theorem read_i64 (n : Int64) : Leaf.i64.read name (Json.decimal n.toInt) = .ok n := by
  have above : Int64.minValue.toInt ≤ n.toInt := n.minValue_le_toInt
  have below : n.toInt ≤ Int64.maxValue.toInt := n.toInt_le
  have low : Integer.least ≤ n.toInt := Int.le_trans (by decide) above
  have high : n.toInt ≤ Integer.greatest := Int.le_trans below (by decide)
  simp only [Leaf.read, Json.decimal, readI64, readInteger_toString name low high,
    if_pos (And.intro above below), Int64.ofInt_toInt]

@[simp] theorem read_string (text : String) : Leaf.string.read name (.string text) = .ok text := rfl

@[simp] theorem read_bool (b : Bool) : Leaf.bool.read name (.bool b) = .ok b := rfl

theorem read_time {text : String} {t : Timestamp} (h : Timestamp.ofText text = .ok t) :
    Leaf.time.read name (.string text) = .ok t := by
  simp only [Leaf.read, readTime, readString, h, Except.mapError]

@[simp] theorem read_keyType {dialect : Dialect} (spelling : Spelling dialect) :
    (Leaf.keyType dialect.keyTypes).read name (.string spelling.keyType) = .ok () := by
  simp only [read, readKeyType, readString, if_pos spelling.keyType_mem]

end Leaf

end Tendermint
