import Tendermint.Text.Duration
import Tendermint.Wire.RequestId
import Tendermint.Wire.Typed

/-!
# Tendermint.Wire.Fault

What can go wrong between a request and its answer.

* `RpcError`: the causes, with their wording in `RpcError.message`.
* `NetworkFault`: a failure of the network under a connection.
-/

namespace Tendermint

/-- A failure of the network, with the failures below it from the outside in. -/
structure NetworkFault where
  text : String
  causes : List String
  deriving DecidableEq, Repr

/-- Why a reply makes no sense. -/
inductive ReplyFault where
  /-- The body is no JSON; the JSON reader names no cause. -/
  | notJson (body : String)
  | malformedFrame (error : ShapeError)
  | noOutcome
  | noId
  | malformedEvent (error : ShapeError)
  | otherId (reply request : RequestId)
  /-- Any other text. -/
  | other (reason : String)
  deriving DecidableEq, Repr

def ReplyFault.message : ReplyFault → String
  | .notJson body => "decode JSON-RPC response: <json error>; body=" ++ body
  | .malformedFrame error => "malformed JSON-RPC frame: " ++ error.message
  | .noOutcome => "frame has neither result nor error"
  | .noId => "success response without id"
  | .malformedEvent error => "malformed subscription event: " ++ error.message
  | .otherId reply request =>
    "response id " ++ reply.display ++ " does not match request id " ++ request.display
  | .other reason => reason

/-- Why a request has no result. -/
inductive RpcError where
  | http (fault : NetworkFault)
  | webSocket (fault : NetworkFault)
  | notConnected
  | transportClosed
  | timeout (after : Duration)
  | duplicateId (id : RequestId)
  | server (code : Int64) (message : String) (data : Option String)
  | invalidReply (fault : ReplyFault)
  deriving DecidableEq, Repr

namespace RpcError

def message : RpcError → String
  | .http fault => "HTTP transport error: " ++ fault.text
  | .webSocket fault => "websocket transport error: " ++ fault.text
  | .notConnected => "not connected"
  | .transportClosed => "transport closed"
  | .timeout after => "request timed out after " ++ after.text
  | .duplicateId id => "request id " ++ id.display ++ " is already outstanding"
  | .server code message _ => "JSON-RPC server error " ++ toString code.toInt ++ ": " ++ message
  | .invalidReply fault => "invalid JSON-RPC response: " ++ fault.message

/-- The failures below an error, from the outside in. -/
def causes : RpcError → List String
  | .http fault => fault.text :: fault.causes
  | .webSocket fault => fault.text :: fault.causes
  | _ => []

end RpcError

end Tendermint
