import Tendermint.Proofs.Answer.Spelling
import Tendermint.Proofs.Text.Forms
import Tendermint.Wire.Request

/-!
# Tendermint.Proofs.Wire.Encoding

Requests are written as answers are read: transactions and hashes in base64, the data of a query in
hexadecimal, heights in decimal. So what a request carries is read back by the leaf of the answers,
and a text on the wire belongs to one value only.

* `Leaf.ReadsBack`: the texts that are written for the values of a leaf.
* `Params.Encodes`: a parameter of requests and the leaf that reads it back.
* `Params.encodes_of_lookup`: it is enough to know which text is written.
* `requests_are_read_back`.
-/

namespace Tendermint

variable {ι α : Type}

namespace Leaf

/-- A leaf reads each value from the text that is written for it. -/
def ReadsBack (kind : Leaf α) (text : α → String) : Prop :=
  ∀ a name, kind.read name (.string (text a)) = .ok a

theorem ReadsBack.injective {kind : Leaf α} {text : α → String} (back : kind.ReadsBack text) :
    Function.Injective text := by
  intro a b same
  have first := back a ""
  rw [same, back b ""] at first
  exact (Except.ok.inj first).symm

theorem readsBack_base64 : Leaf.base64.ReadsBack Base64.encode := fun bs name =>
  read_base64 name bs

theorem readsBack_hex : Leaf.hex.ReadsBack Hex.encode := by
  intro bs name
  simp only [read, readHex, readString, Hex.decode_encode, Except.mapError]

theorem readsBack_u64 : Leaf.u64.ReadsBack fun n => toString n.toNat := fun n name =>
  read_u64 name n

end Leaf

namespace Params

open Json (Members)

/-- How a parameter of requests stands for a value: it is a text that a leaf of the answers reads as
the value, or it is left out if there is none. The answers' accessor of the member finds the value
in the parameters, and different values are never written alike. -/
structure Encodes (write : ι → Params) (key : String) (kind : Leaf α) (value : ι → Option α) :
    Prop where
  text : ∀ i a, value i = some a → ∃ text, (write i).lookup key = some (.string text) ∧
    ∀ name, kind.read name (.string text) = .ok a
  absent : ∀ i, value i = .none → (write i).lookup key = .none
  read : ∀ i name,
    (Schema.optionalField key kind).decode name (.object (write i)) = .ok (value i)
  apart : ∀ i j, (write i).lookup key = (write j).lookup key → value i = value j

theorem encodes_of_lookup {write : ι → Params} {key : String} {kind : Leaf α}
    {value : ι → Option α} {text : α → String} (back : kind.ReadsBack text)
    (found : ∀ i, (write i).lookup key = (value i).map fun a => .string (text a)) :
    Encodes write key kind value where
  text i a given := ⟨text a, by rw [found, given, Option.map_some], back a⟩
  absent i none := by rw [found, none, Option.map_none]
  read i name := by
    have shown : (Json.object (write i)).get? key = (value i).map fun a => .string (text a) := by
      rw [Json.get?_eq]
      change ((write i).lookup key).bind Json.unlessNull = _
      rw [found]
      cases value i <;> rfl
    rw [Schema.decode_optionalField, shown]
    cases value i with
    | none => rfl
    | some a => simp [back a key]
  apart i j same := by
    rw [found, found] at same
    have injective : Function.Injective fun a => Json.string (text a) := fun a b same =>
      back.injective (Json.string.inj same)
    exact Option.map_injective injective same

/-! ## The texts that are written -/

theorem encodes_transaction : Encodes transaction "tx" .base64 some :=
  encodes_of_lookup Leaf.readsBack_base64 fun tx => by simp [transaction, Members.lookup]

theorem encodes_txHash :
    Encodes (fun asked : TxHash × Bool => txHash asked.1 asked.2) "hash" .base64
      (fun asked => some asked.1.bytes) :=
  encodes_of_lookup Leaf.readsBack_base64 fun asked => by
    simp [txHash, Members.ofList, Members.lookup_insert]

theorem encodes_data :
    Encodes (fun asked : ProveFlag × AppQuery => appQuery asked.1 asked.2) "data" .hex
      (fun asked => some asked.2.data) :=
  encodes_of_lookup Leaf.readsBack_hex fun ⟨flag, path, data, height, prove⟩ => by
    cases flag <;> cases height <;>
      simp [appQuery, proveMember, given, Members.ofList, Members.lookup_insert]

theorem encodes_queryHeight :
    Encodes (fun asked : ProveFlag × AppQuery => appQuery asked.1 asked.2) "height" .u64
      (fun asked => asked.2.height) :=
  encodes_of_lookup Leaf.readsBack_u64 fun ⟨flag, path, data, height, prove⟩ => by
    cases flag <;> cases height <;>
      simp [appQuery, proveMember, given, heightValue, Members.ofList, Members.lookup_insert,
        Members.lookup]

theorem encodes_height : Encodes height "height" .u64 id :=
  encodes_of_lookup Leaf.readsBack_u64 fun height => by
    cases height <;>
      simp [Params.height, given, heightValue, Members.ofList, Members.lookup_insert,
        Members.lookup]

theorem encodes_heightRange :
    Encodes (fun asked : Option UInt64 × Option UInt64 => heightRange asked.1 asked.2) "minHeight"
      .u64 Prod.fst ∧
    Encodes (fun asked : Option UInt64 × Option UInt64 => heightRange asked.1 asked.2) "maxHeight"
      .u64 Prod.snd := by
  constructor <;> refine encodes_of_lookup Leaf.readsBack_u64 fun ⟨least, greatest⟩ => ?_ <;>
    cases least <;> cases greatest <;>
      simp [heightRange, given, heightValue, Members.ofList, Members.lookup_insert, Members.lookup]

end Params

namespace TxHash

theorem ofText_text (hash : TxHash) : ofText hash.text = .ok hash := by
  rw [ofText, text, Hex.decode_encodeUpper]
  rfl

theorem text_of_ofText {text : String} {hash : TxHash} (read : ofText text = .ok hash) :
    hash.text = text.toUpper := by
  rw [ofText] at read
  cases decoded : Hex.decode text with
  | error e =>
    rw [decoded] at read
    cases read
  | ok bytes =>
    rw [decoded] at read
    cases read
    exact Hex.encodeUpper_of_decode decoded

theorem text_injective : Function.Injective text := by
  intro hash other same
  have read := ofText_text hash
  rw [same, ofText_text other] at read
  exact (Except.ok.inj read).symm

end TxHash

/-- Requests are read back. The transaction, the hash, the data and the heights of a request are
texts from which the leaves of the answers read the very values that were given, for all values;
absent heights are left out; and requests with different values never share such a text. A hash is
read back from its text, any text that is read as a hash is, with its letters in upper case, the
text of that hash, and different hashes have different texts. -/
theorem requests_are_read_back :
    Params.Encodes Params.transaction "tx" .base64 some ∧
    Params.Encodes (fun asked : TxHash × Bool => Params.txHash asked.1 asked.2) "hash" .base64
      (fun asked => some asked.1.bytes) ∧
    Params.Encodes (fun asked : ProveFlag × AppQuery => Params.appQuery asked.1 asked.2) "data" .hex
      (fun asked => some asked.2.data) ∧
    Params.Encodes (fun asked : ProveFlag × AppQuery => Params.appQuery asked.1 asked.2) "height"
      .u64 (fun asked => asked.2.height) ∧
    Params.Encodes Params.height "height" .u64 id ∧
    Params.Encodes (fun asked : Option UInt64 × Option UInt64 =>
      Params.heightRange asked.1 asked.2) "minHeight" .u64 Prod.fst ∧
    Params.Encodes (fun asked : Option UInt64 × Option UInt64 =>
      Params.heightRange asked.1 asked.2) "maxHeight" .u64 Prod.snd ∧
    (∀ hash : TxHash, TxHash.ofText hash.text = .ok hash) ∧
    (∀ text hash, TxHash.ofText text = .ok hash → hash.text = text.toUpper) ∧
    ∀ hash other : TxHash, hash.text = other.text → hash = other :=
  ⟨Params.encodes_transaction, Params.encodes_txHash, Params.encodes_data,
    Params.encodes_queryHeight, Params.encodes_height, Params.encodes_heightRange.1,
    Params.encodes_heightRange.2, TxHash.ofText_text, fun _ _ read => TxHash.text_of_ofText read,
    fun _ _ same => TxHash.text_injective same⟩

/-- The greatest height alone in a range, and a hash that is read from letters of both cases. -/
theorem greatest_height_and_mixed_hash_are_read_back :
    (∃ text, (Params.heightRange none (some 18446744073709551615)).lookup "maxHeight" =
        some (.string text) ∧
      ∀ name, Leaf.u64.read name (.string text) = .ok 18446744073709551615) ∧
    (Params.heightRange none (some 18446744073709551615)).lookup "minHeight" = none ∧
    (TxHash.mk [10, 255]).text = "0aFf".toUpper := by
  obtain ⟨-, -, -, -, -, least, greatest, -, upper, -⟩ := requests_are_read_back
  exact ⟨greatest.text (none, some 18446744073709551615) _ rfl,
    least.absent (none, some 18446744073709551615) rfl, upper "0aFf" ⟨[10, 255]⟩ (by decide)⟩

end Tendermint
