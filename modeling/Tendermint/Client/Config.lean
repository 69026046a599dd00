import Tendermint.Client.Error

/-!
# Tendermint.Client.Config

Timeouts and the limit on the rate of requests, for both kinds of transport, and what a
transport checks before it opens.

* `Config.validate`.
* `Transport.http`, `Transport.webSocket`, `Transport.choose`: the endpoint that is opened.
-/

namespace Tendermint

/-- Timeouts, and how many requests may leave in a second. -/
structure Config where
  connectTimeout : Duration
  requestTimeout : Duration
  requestsPerSecond : Option UInt32
  deriving DecidableEq, Repr

namespace Config

def standard : Config := ⟨.ofSeconds 10, .ofSeconds 30, none⟩

/-- The request timeout is looked at first. -/
def validate (config : Config) : Except ClientError Unit :=
  if config.requestTimeout.isZero then .error (.config .zeroTimeout)
  else if config.requestsPerSecond = some 0 then .error (.config .zeroRate)
  else .ok ()

end Config

/-- A transport that is ready to be used: its URL, and whether it can carry subscriptions. -/
structure Transport where
  url : String
  streaming : Bool
  deriving DecidableEq, Repr

namespace Transport

/-- A transport over HTTP. The configuration is checked before the connection string. -/
def http (connection : String) (config : Config) : Except ClientError Transport :=
  match config.validate with
  | .error e => .error e
  | .ok () =>
    match Endpoint.httpUrl connection with
    | .error e => .error (.connection e)
    | .ok url => .ok ⟨url, false⟩

/-- A transport over a WebSocket, up to the point where the socket is opened. -/
def webSocket (connection : String) (config : Config) : Except ClientError Transport :=
  match config.validate with
  | .error e => .error e
  | .ok () =>
    match Endpoint.webSocketUrl connection with
    | .error e => .error (.connection e)
    | .ok url => .ok ⟨url, true⟩

/-- The transport that the scheme of a connection string asks for. -/
def choose (connection : String) (config : Config) : Except ClientError Transport :=
  match Endpoint.ofText connection with
  | .error e => .error (.connection e)
  | .ok (.http url) => http url config
  | .ok (.webSocket url) => webSocket url config

end Transport

end Tendermint
