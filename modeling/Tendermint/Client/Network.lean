import Tendermint.Client.Config
import Tendermint.Client.Calls
import Tendermint.Client.Subscription
import Tendermint.Wire.Reply

/-!
# Tendermint.Client.Network

The network between a client and its node, with a state of its own: whether a socket opens, what
comes back for a request and which events a subscription brings. A transport over HTTP opens no
connection before its first request, and each of its requests is an exchange of its own.

* `Network.execute`: one request over a transport.
* `Network.run`: a conversation, with the next identifier for each request.
* `Network.connect`: a client over the transport that a connection string asks for.
* `Network.unreachable`: a machine without any network.
-/

namespace Tendermint

structure Network (σ : Type) where
  openSocket : String → σ → Except RpcError Unit × σ
  /-- The body that comes back for a request that is posted to a URL. -/
  post : String → Request → σ → Except NetworkFault String × σ
  /-- What a request over the open socket comes to. -/
  call : Request → σ → Except RpcError Success × σ
  /-- The events of the subscription that was opened last, up to the end of its stream. -/
  events : σ → List (Except RpcError Event) × σ

/-- The identifiers that are left, and the state of the network. -/
structure Session (σ : Type) where
  ids : RequestId.Counter
  state : σ

namespace Network

variable {σ α : Type}

/-- One request over a transport. -/
def execute (network : Network σ) (transport : Transport) (request : Request) (s : σ) :
    Except RpcError Success × σ :=
  if transport.streaming then network.call request s
  else
    match network.post transport.url request s with
    | (.error fault, s) => (.error (.http fault), s)
    | (.ok body, s) => (Reply.answerTo request.id body, s)

/-- One request under the next identifier. -/
def ask (network : Network σ) (transport : Transport) (method : Method) (params : Params)
    (session : Session σ) : Except RpcError Json × Session σ :=
  let (id, ids) := session.ids.take
  let (outcome, state) := network.execute transport ⟨id, method.name, params⟩ session.state
  (outcome.map Success.result, ⟨ids, state⟩)

/-- Runs a conversation over a transport. -/
def run (network : Network σ) (transport : Transport) (exchange : Exchange α)
    (session : Session σ) : α × Session σ :=
  exchange.run (network.ask transport) session

/-- Makes a transport ready for requests, unless it could not be configured. -/
def opened (network : Network σ) (transport : Except ClientError Transport) (s : σ) :
    Except ClientError Transport × σ :=
  match transport with
  | .error e => (.error e, s)
  | .ok transport =>
    if transport.streaming then
      match network.openSocket transport.url s with
      | (.error e, s) => (.error (.rpc e), s)
      | (.ok (), s) => (.ok transport, s)
    else (.ok transport, s)

/-- A client for a node of a known version, or else of the version that the node reports. -/
def connect (network : Network σ) (connection : String) (config : Config)
    (version : Option Version) (session : Session σ) :
    Except ClientError (Client × Transport) × Session σ :=
  match network.opened (Transport.choose connection config) session.state with
  | (.error e, state) => (.error e, { session with state })
  | (.ok transport, state) =>
    match version with
    | some version => (.ok (⟨version⟩, transport), { session with state })
    | none =>
      let (client, session) := network.run transport Client.detect { session with state }
      (client.map fun client => (client, transport), session)

/-- What a machine without a network says. -/
def unreachableText : String := "Network is unreachable (os error 101)"

/-- A socket that does not open. -/
def socketFault : NetworkFault := ⟨"IO error: " ++ unreachableText, [unreachableText]⟩

/-- A request over HTTP that does not leave the machine. -/
def requestFault (url : String) : NetworkFault :=
  ⟨"error sending request for url (" ++ url ++ ")",
    ["client error (Connect)", "tcp connect error: " ++ unreachableText, unreachableText]⟩

def unreachable : Network Unit where
  openSocket _ s := (.error (.webSocket socketFault), s)
  post url _ s := (.error (requestFault url), s)
  call _ s := (.error .notConnected, s)
  events s := ([], s)

end Network

end Tendermint
