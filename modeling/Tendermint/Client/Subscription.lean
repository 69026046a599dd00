import Tendermint.Answer.Event
import Tendermint.Client.Calls

/-!
# Tendermint.Client.Subscription

Subscriptions to events. Only a transport that streams can carry one; over any other transport
nothing is sent.

* `Client.subscribe`: opens a subscription.
* `Feed.item`: what the subscriber gets for one event. A bad event is an error of its own and
  ends nothing.
* `Client.heightSeed`: the height at which a watch of the chain starts.
-/

namespace Tendermint

namespace EventKind

/-- The events of one kind that a query also matches. -/
def queryWith (kind : EventKind) (query : Query) : Query := kind.query.and query

end EventKind

namespace Client

/-- Opens a subscription. The acknowledgement says nothing beyond its success. -/
def subscribe (_ : Client) (streaming : Bool) (query : Query) : Call Unit :=
  if streaming then
    .call .subscribe (Params.subscription query) fun
      | .error e => .done (.error (.rpc e))
      | .ok _ => .done (.ok ())
  else .done (.error .streamingUnsupported)

/-- Asks for the height at which a watch starts. The watch itself subscribes to headers when
somebody follows it. -/
def heightSeed (client : Client) (streaming : Bool) : Call UInt64 :=
  if streaming then (client.status).map fun status => status.sync.latestBlockHeight
  else .done (.error .streamingUnsupported)

end Client

namespace Feed

/-- What a subscriber gets for one event. -/
def item {α : Type} (read : Event → Except DecodeError α) :
    Except RpcError Event → Except ClientError α
  | .error e => .error (.rpc e)
  | .ok event => (read event).mapError .decode

end Feed

end Tendermint
