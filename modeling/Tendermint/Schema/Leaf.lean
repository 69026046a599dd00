import Tendermint.Json.Compact
import Tendermint.Text.Hex
import Tendermint.Text.Base64
import Tendermint.Text.Integer
import Tendermint.Time.Timestamp
import Tendermint.Schema.Error

/-!
# Tendermint.Schema.Leaf

The values at the leaves of an answer, and how each is read from a JSON value. Every field has
one encoding of its own; a value in another encoding is an error and never a guess.

* `Leaf`: the kinds of leaves, each with the type of what it reads.
* `Leaf.read`: reads a present value under the name of its field.
-/

namespace Tendermint

/-- A kind of leaf and the type of its values. -/
inductive Leaf : Type → Type where
  | string : Leaf String
  | bool : Leaf Bool
  | u32 : Leaf UInt32
  | u64 : Leaf UInt64
  | i64 : Leaf Int64
  | hex : Leaf Bytes
  | base64 : Leaf Bytes
  | time : Leaf Timestamp
  | json : Leaf Json
  /-- A public key type, which must be one of those accepted. -/
  | keyType (accepted : List String) : Leaf Unit
  /-- Named settings, as an object or as a list of `key=value` texts. -/
  | settings : Leaf (List (String × String))

namespace Leaf

def readString (name : String) (value : Json) : Except DecodeError String :=
  match value with
  | .string text => .ok text
  | other => .error (.invalidField name ("expected string, got " ++ other.compact))

def readBool (name : String) (value : Json) : Except DecodeError Bool :=
  match value with
  | .bool b => .ok b
  | other => .error (.invalidField name ("expected boolean, got " ++ other.compact))

/-- An integer, as a JSON integer or as decimal text. -/
def readInteger (name : String) (value : Json) : Except DecodeError Int :=
  match value with
  | .string text =>
    match Integer.ofText text with
    | .ok n => .ok n
    | .error e => .error (.invalidField name ("`" ++ text ++ "` is not an integer: " ++ e.message))
  | .number (.integer n) => .ok n
  | .number (.real x) =>
    .error (.invalidField name ("`" ++ (Number.real x).text ++ "` is not an integer"))
  | other => .error (.invalidField name ("expected integer, got " ++ other.compact))

def outOfRange (name : String) (n : Int) : DecodeError :=
  .invalidField name (toString n ++ " out of range")

/-- A natural number below `bound`. -/
def readNat (bound : Nat) (name : String) (value : Json) : Except DecodeError Nat :=
  match readInteger name value with
  | .error e => .error e
  | .ok n => if 0 ≤ n ∧ n < bound then .ok n.toNat else .error (outOfRange name n)

def readU32 (name : String) (value : Json) : Except DecodeError UInt32 :=
  (readNat UInt32.size name value).map UInt32.ofNat

def readU64 (name : String) (value : Json) : Except DecodeError UInt64 :=
  (readNat UInt64.size name value).map UInt64.ofNat

def readI64 (name : String) (value : Json) : Except DecodeError Int64 :=
  match readInteger name value with
  | .error e => .error e
  | .ok n =>
    if Int64.minValue.toInt ≤ n ∧ n ≤ Int64.maxValue.toInt then .ok (Int64.ofInt n)
    else .error (outOfRange name n)

def readHex (name : String) (value : Json) : Except DecodeError Bytes :=
  match readString name value with
  | .error e => .error e
  | .ok text =>
    (Hex.decode text).mapError fun e => .invalidField name ("invalid hex: " ++ e.message)

def readBase64 (name : String) (value : Json) : Except DecodeError Bytes :=
  match readString name value with
  | .error e => .error e
  | .ok text =>
    (Base64.decode text).mapError fun e => .invalidField name ("invalid base64: " ++ e.message)

def readTime (name : String) (value : Json) : Except DecodeError Timestamp :=
  match readString name value with
  | .error e => .error e
  | .ok text =>
    (Timestamp.ofText text).mapError fun e =>
      .invalidField name ("`" ++ text ++ "` is not an RFC 3339 time: " ++ e.message)

def readKeyType (accepted : List String) (name : String) (value : Json) :
    Except DecodeError Unit :=
  match readString name value with
  | .error e => .error e
  | .ok kind => if kind ∈ accepted then .ok () else .error (.unknownKeyType kind)

/-- A text cut at its first `=`. -/
def cutAtEquals (text : List Char) : Option (List Char × List Char) :=
  match text.dropWhile (· ≠ '=') with
  | [] => none
  | _ :: value => some (text.takeWhile (· ≠ '='), value)

/-- Puts a setting at its place in key order and replaces one with the same key. -/
def putSetting (key value : String) : List (String × String) → List (String × String)
  | [] => [(key, value)]
  | (k, v) :: rest =>
    if key = k then (key, value) :: rest
    else if key < k then (key, value) :: (k, v) :: rest
    else (k, v) :: putSetting key value rest

/-- One entry of a list of settings. -/
def settingOfEntry (name : String) (entry : Json) : Except DecodeError (String × String) :=
  match entry with
  | .string text =>
    match cutAtEquals text.toList with
    | some (key, value) => .ok (String.ofList key, String.ofList value)
    | none => .error (.invalidField name ("`" ++ text ++ "` is not key=value"))
  | _ => .error (.invalidField name "expected string entries")

/-- The text of a setting in an object; a value that is no string stands as its JSON. -/
def settingText : Json → String
  | .string text => text
  | other => other.compact

/-- Settings in key order; of two with one key the later counts. -/
def readSettings (name : String) (value : Json) : Except DecodeError (List (String × String)) :=
  match value with
  | .array entries =>
    match entries.mapM (settingOfEntry name) with
    | .error e => .error e
    | .ok pairs => .ok (pairs.foldl (fun all pair => putSetting pair.1 pair.2 all) [])
  | .object members =>
    .ok (members.foldl (fun all m => putSetting m.1 (settingText m.2) all) [])
  | other => .error (.invalidField name ("expected array or object, got " ++ other.compact))

/-- Reads a present value of the field `name`. -/
def read {α : Type} : Leaf α → String → Json → Except DecodeError α
  | .string, name, value => readString name value
  | .bool, name, value => readBool name value
  | .u32, name, value => readU32 name value
  | .u64, name, value => readU64 name value
  | .i64, name, value => readI64 name value
  | .hex, name, value => readHex name value
  | .base64, name, value => readBase64 name value
  | .time, name, value => readTime name value
  | .json, _, value => .ok value
  | .keyType accepted, name, value => readKeyType accepted name value
  | .settings, name, value => readSettings name value

end Leaf

end Tendermint
