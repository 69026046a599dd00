import Tendermint.Schema.Error
import Tendermint.Wire.Endpoint
import Tendermint.Wire.Fault

/-!
# Tendermint.Client.Error

Everything that a call to a node can fail with.
-/

namespace Tendermint

/-- Why a configuration is refused. -/
inductive ConfigError where
  | zeroTimeout
  | zeroRate
  /-- A watch was started where no task can run. -/
  | noRuntime
  deriving DecidableEq, Repr

def ConfigError.message : ConfigError → String
  | .zeroTimeout => "request timeout must be greater than zero"
  | .zeroRate => "requests_per_second must be at least 1"
  | .noRuntime => "height watch needs a tokio runtime"

/-- Why a call fails. -/
inductive ClientError where
  | rpc (error : RpcError)
  | decode (error : DecodeError)
  | unsupportedVersion (text : String)
  | connection (error : ConnectionError)
  | config (error : ConfigError)
  | streamingUnsupported
  deriving DecidableEq, Repr

namespace ClientError

def message : ClientError → String
  | .rpc error => "RPC communication failure: " ++ error.message
  | .decode error => "response decode failure: " ++ error.message
  | .unsupportedVersion text => "unsupported node version `" ++ text ++ "`"
  | .connection error => "invalid connection: " ++ error.message
  | .config error => "invalid configuration: " ++ error.message
  | .streamingUnsupported => "transport does not support event subscriptions"

/-- The failures below an error, from the outside in. -/
def causes : ClientError → List String
  | .rpc error => error.message :: error.causes
  | .decode error => [error.message]
  | _ => []

end ClientError

end Tendermint
