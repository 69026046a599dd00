import Tendermint.Json.Reader
import Tendermint.Wire.Fault

/-!
# Tendermint.Wire.Reply

The envelope around a node's answer. It is a failure if it has an error, whatever else it has,
and a success if it has a result and an identifier; anything else is no reply. A member that is
`null` counts as absent.

* `Frame.ofJson`: the three members of an envelope, from an object or a list.
* `Reply.ofJson`, `Reply.ofText`: the reply.
* `Reply.outcome`: a result for the caller, or the error that the node reports.
* `Reply.answerTo`: the outcome of a request that had an exchange of its own.
-/

namespace Tendermint

/-- The members of an envelope. -/
structure Frame where
  id : Option RequestId
  result : Option Json
  error : Option Json
  deriving DecidableEq, Repr

namespace Frame

def structureName : String := "RawFrame"

/-- An identifier, which may be absent. -/
def readId : Option Json → Except ShapeError (Option RequestId)
  | none => .ok none
  | some .null => .ok none
  | some value =>
    match RequestId.ofJson? value with
    | some id => .ok (some id)
    | none => .error .noIdentifier

/-- A value, where `null` is as good as none. -/
def present : Option Json → Option Json
  | some .null => none
  | value => value

/-- Reads an envelope: an object, or a list of at most identifier, result and error. -/
def ofJson : Json → Except ShapeError Frame
  | .object members =>
    match readId (members.lookup "id") with
    | .error e => .error e
    | .ok id => .ok ⟨id, present (members.lookup "result"), present (members.lookup "error")⟩
  | .array values =>
    match readId values[0]? with
    | .error e => .error e
    | .ok id =>
      if 3 < values.length then .error (.tooLong values.length)
      else .ok ⟨id, present values[1]?, present values[2]?⟩
  | value => .error (.wrongKind value ("struct " ++ structureName))

end Frame

/-- The error that a node reports. -/
structure ServerError where
  code : Int64
  message : String
  data : Option String
  deriving DecidableEq, Repr

namespace ServerError

def code? : Json → Option Int64
  | .number (.integer n) =>
    if Int64.minValue.toInt ≤ n ∧ n ≤ Int64.maxValue.toInt then some (Int64.ofInt n) else none
  | _ => none

/-- Data that is no string stands as its JSON. -/
def dataText : Option Json → Option String
  | none => none
  | some .null => none
  | some (.string s) => some s
  | some other => some other.compact

/-- An error of the standard shape: a code, a message and perhaps data. -/
def standard? (code message data : Option Json) : Option ServerError :=
  match code.bind code?, message with
  | some code, some (.string message) => some ⟨code, message, dataText data⟩
  | _, _ => none

/-- An error of any other shape is kept as its JSON, so that nothing is lost. -/
def nonStandard (error : Json) : ServerError :=
  ⟨0, "non-standard JSON-RPC error: " ++ error.compact, none⟩

def ofJson (error : Json) : ServerError :=
  let found :=
    match error with
    | .object members =>
      standard? (members.lookup "code") (members.lookup "message") (members.lookup "data")
    | .array values =>
      if 3 < values.length then none else standard? values[0]? values[1]? values[2]?
    | _ => none
  found.getD (nonStandard error)

end ServerError

/-- A result with the identifier of its request. -/
structure Success where
  id : RequestId
  result : Json
  deriving DecidableEq, Repr

/-- A node's answer. -/
inductive Reply where
  | success (answer : Success)
  | failure (id : Option RequestId) (error : ServerError)
  deriving DecidableEq, Repr

namespace Reply

def ofFrame (frame : Frame) : Except ReplyFault Reply :=
  match frame.error, frame.result, frame.id with
  | some error, _, id => .ok (.failure id (ServerError.ofJson error))
  | none, some result, some id => .ok (.success ⟨id, result⟩)
  | none, some _, none => .error .noId
  | none, none, _ => .error .noOutcome

def ofJson (value : Json) : Except ReplyFault Reply :=
  match Frame.ofJson value with
  | .error e => .error (.malformedFrame e)
  | .ok frame => ofFrame frame

def ofText (body : String) : Except ReplyFault Reply :=
  match Json.ofText? body with
  | none => .error (.notJson body)
  | some value => ofJson value

/-- What the caller gets. -/
def outcome : Reply → Except RpcError Success
  | .success answer => .ok answer
  | .failure _ error => .error (.server error.code error.message error.data)

/-- What the caller gets from an envelope that may be no reply at all. -/
def outcomeOf : Except ReplyFault Reply → Except RpcError Success
  | .error fault => .error (.invalidReply fault)
  | .ok reply => reply.outcome

/-- What the caller gets from the body of an answer to its own request. A result must have the
identifier of the request; an error counts whatever its identifier, as a node that could not
read a request does not know it. -/
def answerTo (id : RequestId) (body : String) : Except RpcError Success :=
  match outcomeOf (ofText body) with
  | .error e => .error e
  | .ok answer =>
    if answer.id = id then .ok answer else .error (.invalidReply (.otherId answer.id id))

end Reply

end Tendermint
