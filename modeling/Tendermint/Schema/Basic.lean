import Tendermint.Schema.Leaf

/-!
# Tendermint.Schema.Basic

The shape of an answer as data: which members of which objects are read, in which order, and
what they have to be. One function, `Schema.decode`, reads a JSON value by its schema.

A member whose value is `null` is absent. A required member that is absent is an error, an
optional one is `none`; a member that is present but malformed is an error in both cases. A
schema reads from left to right and stops at the first error.

* `Schema`: the language.
* `Schema.required`, `Schema.optional`, `Schema.listOf`, `Schema.defaulted`: what most answers need.
* `Schema.decode`: reads a value; `name` is the field that the value stands in.
-/

namespace Tendermint

/-- How a value of type `α` is read from a JSON value. -/
inductive Schema : Type → Type 1 where
  /-- Reads nothing. -/
  | const {α : Type} (a : α) : Schema α
  /-- Reads the function first, then its argument, both from the same value. -/
  | ap {α β : Type} (f : Schema (α → β)) (x : Schema α) : Schema β
  /-- The value is a leaf. -/
  | leaf {α : Type} (kind : Leaf α) : Schema α
  /-- The value is an array and each item is read alike. -/
  | items {α : Type} (item : Schema α) : Schema (List α)
  /-- The value is an array in which `null` marks a gap. -/
  | gaps {α : Type} (item : Schema α) : Schema (List (Option α))
  /-- The first present one of some members, at least one of which must be. -/
  | member {α : Type} (names : List String) (inner : Schema α) : Schema α
  /-- A member that may be absent. -/
  | optional {α : Type} (name : String) (inner : Schema α) : Schema (Option α)
  /-- What the first schema finds, or else the second. -/
  | orElse {α : Type} (first : Schema (Option α)) (second : Schema α) : Schema α
  /-- One schema for a string and one for an object. -/
  | textOrObject {α : Type} (text object : Schema α) : Schema α

namespace Schema

instance : Functor Schema where
  map f x := .ap (.const f) x

instance : Pure Schema where
  pure := .const

instance : Seq Schema where
  seq f x := .ap f (x ())

instance : SeqRight Schema where
  seqRight x y := .ap (.ap (.const fun _ b => b) x) (y ())

/-- A member that must be present. -/
def required {α : Type} (name : String) (inner : Schema α) : Schema α := .member [name] inner

/-- A member that must be present, whatever it holds. -/
def present (name : String) : Schema Unit := required name (.const ())

/-- A required member that is a leaf. -/
def field {α : Type} (name : String) (kind : Leaf α) : Schema α := required name (.leaf kind)

/-- An optional member that is a leaf. -/
def optionalField {α : Type} (name : String) (kind : Leaf α) : Schema (Option α) :=
  .optional name (.leaf kind)

/-- A required list. -/
def listOf {α : Type} (name : String) (item : Schema α) : Schema (List α) :=
  required name (.items item)

/-- An optional member with the value that stands for its absence. -/
def defaulted {α : Type} (name : String) (default : α) (inner : Schema α) : Schema α :=
  (fun found => found.getD default) <$> .optional name inner

/-- An optional list whose absence is the empty list. -/
def listOrEmpty {α : Type} (name : String) (item : Schema α) : Schema (List α) :=
  defaulted name [] (.items item)

/-- The first member among `names` that is present, with its name. -/
def firstPresent (value : Json) : List String → Option (String × Json)
  | [] => none
  | name :: rest =>
    match value.get? name with
    | some found => some (name, found)
    | none => firstPresent value rest

/-- Each item in turn, up to the first error. -/
def eachItem {α : Type} (read : Json → Except DecodeError α) :
    List Json → Except DecodeError (List α)
  | [] => .ok []
  | item :: rest =>
    match read item with
    | .error e => .error e
    | .ok a =>
      match eachItem read rest with
      | .error e => .error e
      | .ok more => .ok (a :: more)

/-- A gap for `null`, and a reading of anything else. -/
def gapOr {α : Type} (read : Json → Except DecodeError α) :
    Json → Except DecodeError (Option α)
  | .null => .ok none
  | item => (read item).map some

/-- Reads `value`, which stands in the field `name`. -/
def decode {α : Type} : Schema α → String → Json → Except DecodeError α
  | .const a, _, _ => .ok a
  | .ap f x, name, value =>
    match decode f name value with
    | .error e => .error e
    | .ok g =>
      match decode x name value with
      | .error e => .error e
      | .ok a => .ok (g a)
  | .leaf kind, name, value => kind.read name value
  | .items item, name, value =>
    match value with
    | .array values => eachItem (decode item name) values
    | other => .error (.invalidField name ("expected array, got " ++ other.compact))
  | .gaps item, name, value =>
    match value with
    | .array values => eachItem (gapOr (decode item name)) values
    | _ => .error (.invalidField name "expected array")
  | .member names inner, _, value =>
    match firstPresent value names with
    | none => .error (.missingField (String.intercalate " | " names))
    | some (found, v) => decode inner found v
  | .optional name inner, _, value =>
    match value.get? name with
    | none => .ok none
    | some v => (decode inner name v).map some
  | .orElse first second, name, value =>
    match decode first name value with
    | .error e => .error e
    | .ok (some a) => .ok a
    | .ok none => decode second name value
  | .textOrObject text object, name, value =>
    match value with
    | .string _ => decode text name value
    | .object _ => decode object name value
    | other => .error (.invalidField name ("expected string or object, got " ++ other.compact))

/-- Reads a whole answer. -/
def read {α : Type} (schema : Schema α) (value : Json) : Except DecodeError α :=
  schema.decode "result" value

end Schema

end Tendermint
