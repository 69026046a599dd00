import Tendermint.Wire.Reply

/-!
# Tendermint.Wire.Event

The events of a subscription: the query that matched, and a payload of some kind.
-/

namespace Tendermint

/-- An event as the node sends it. -/
structure Event where
  query : Option String
  kind : String
  value : Json
  deriving DecidableEq, Repr

namespace Event

def structureName : String := "JsonRpcEvent"

def payloadName : String := "EventData"

def text : Json → Except ShapeError String
  | .string s => .ok s
  | value => .error (.wrongKind value "a string")

def optionalText : Option Json → Except ShapeError (Option String)
  | none => .ok none
  | some .null => .ok none
  | some value => (text value).map some

/-- The kind and the value of a payload. -/
def payload : Json → Except ShapeError (String × Json)
  | .object members =>
    match (members.lookup "type").map text, members.lookup "value" with
    | some (.error e), _ => .error e
    | none, _ => .error (.missingMember "type")
    | some (.ok _), none => .error (.missingMember "value")
    | some (.ok kind), some value => .ok (kind, value)
  | .array values =>
    match values with
    | [] => .error (.tooShort 0 payloadName 2)
    | kind :: rest =>
      match text kind with
      | .error e => .error e
      | .ok kind =>
        match rest with
        | [] => .error (.tooShort 1 payloadName 2)
        | [value] => .ok (kind, value)
        | _ => .error (.tooLong values.length)
  | value => .error (.wrongKind value ("struct " ++ payloadName))

/-- Reads an event from the result of a frame. Of an object the payload is read first, of a
list the query. -/
def ofJson : Json → Except ShapeError Event
  | .object members =>
    match (members.lookup "data").map payload with
    | some (.error e) => .error e
    | data =>
      match optionalText (members.lookup "query"), data with
      | .error e, _ => .error e
      | .ok query, some (.ok (kind, value)) => .ok ⟨query, kind, value⟩
      | .ok _, _ => .error (.missingMember "data")
  | .array values =>
    match optionalText values[0]? with
    | .error e => .error e
    | .ok query =>
      match values[1]? with
      | none => .error (.tooShort 1 structureName 2)
      | some data =>
        match payload data with
        | .error e => .error e
        | .ok (kind, value) =>
          if 2 < values.length then .error (.tooLong values.length) else .ok ⟨query, kind, value⟩
  | value => .error (.wrongKind value ("struct " ++ structureName))

/-- The event in the result of a reply. -/
def ofResult (result : Json) : Except RpcError Event :=
  (ofJson result).mapError fun e => .invalidReply (.malformedEvent e)

end Event

end Tendermint
