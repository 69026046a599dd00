import Tendermint.Socket.Table
import Tendermint.Wire.Event
import Tendermint.Wire.Request

/-!
# Tendermint.Socket.Router

Which frame goes to whom. Two tables are kept: requests that wait for their answer, and
subscriptions with the feeds of their events. A frame whose identifier is that of a waiting
request answers it; any other is an event if its identifier belongs to a subscription, and
noise otherwise.

The caller that waits for an answer, and the feed that goes with it, is known by a number. The
router only says what is delivered to which.

* `Router.dispatch`: what becomes of a frame.
* `Router.admitCall`, `Router.admitSubscription`, `Router.admitIgnored`: a request that was sent.
* `Router.forget`, `Router.takeRoute`, `Router.shutdown`.
-/

namespace Tendermint

/-- A request that was sent and waits for its answer. -/
inductive Pending where
  | call (caller : Nat)
  | subscribe (caller : Nat)
  /-- Nobody waits for the answer; the moment at which the request was sent. -/
  | ignored (sent : Duration)
  deriving DecidableEq, Repr

/-- Where the events of a subscription go, and the query it was made with. -/
structure Route where
  query : Option String
  caller : Nat
  deriving DecidableEq, Repr

/-- What reaches a caller. -/
inductive Delivery where
  | answer (caller : Nat) (outcome : Except RpcError Success)
  /-- No answer will come any more. -/
  | hangUp (caller : Nat)
  | event (caller : Nat) (item : Except RpcError Event)
  /-- No event will come any more. -/
  | endFeed (caller : Nat)
  deriving Repr

structure Router where
  pending : Table RequestId Pending
  routes : Table RequestId Route
  deriving Repr, DecidableEq

namespace Router

def empty : Router := ⟨.empty, .empty⟩

def isOutstanding (router : Router) (id : RequestId) : Bool :=
  router.pending.contains id || router.routes.contains id

/-- What becomes of the callers that waited in an entry that is taken out without an answer. -/
def dropPending : Option Pending → List Delivery
  | some (.call caller) => [.hangUp caller]
  | some (.subscribe caller) => [.hangUp caller]
  | _ => []

def dropRoute : Option Route → List Delivery
  | some route => [.endFeed route.caller]
  | none => []

/-- Notes a call that was sent. -/
def admitCall (id : RequestId) (caller : Nat) (router : Router) : Router × List Delivery :=
  ({ router with pending := router.pending.insert id (.call caller) },
    dropPending (router.pending.get? id))

/-- Notes a subscription that was sent. Its events may come before its answer. -/
def admitSubscription (id : RequestId) (query : Option String) (caller : Nat) (router : Router) :
    Router × List Delivery :=
  (⟨router.pending.insert id (.subscribe caller), router.routes.insert id ⟨query, caller⟩⟩,
    dropPending (router.pending.get? id) ++ dropRoute (router.routes.get? id))

/-- Notes a request whose answer nobody waits for. -/
def admitIgnored (id : RequestId) (now : Duration) (router : Router) : Router × List Delivery :=
  ({ router with pending := router.pending.insert id (.ignored now) },
    dropPending (router.pending.get? id))

/-- Whether an entry is kept for longer. One that nobody waits for is dropped when it is as old
as an answer may be. -/
def isFresh (now limit : Duration) : Pending → Bool
  | .ignored sent => decide (now.nanoseconds - sent.nanoseconds < limit.nanoseconds)
  | _ => true

def expireIgnored (now limit : Duration) (router : Router) : Router :=
  { router with pending := router.pending.keep (isFresh now limit) }

/-- Whether an outcome is a failure. -/
def isFailure {ε α : Type} : Except ε α → Bool
  | .error _ => true
  | .ok _ => false

/-- Gives an answer to the caller that waited in an entry that was taken out. A subscription that
was refused has no events. -/
def complete (id : RequestId) (entry : Pending) (outcome : Except RpcError Success)
    (router : Router) : Router × List Delivery :=
  match entry with
  | .call caller => (router, [.answer caller outcome])
  | .ignored _ => (router, [])
  | .subscribe caller =>
    if isFailure outcome then
      ({ router with routes := router.routes.erase id },
        dropRoute (router.routes.get? id) ++ [.answer caller outcome])
    else (router, [.answer caller outcome])

/-- The identifier of a frame, if the frame is an object that has a usable one. -/
def frameId? (frame : Json) : Option RequestId := (frame.member? "id").bind RequestId.ofJson?

/-- The event in a frame, or the fault of that frame. -/
def eventOf (frame : Json) : Except RpcError Event :=
  match Reply.outcomeOf (Reply.ofJson frame) with
  | .error e => .error e
  | .ok answer => Event.ofResult answer.result

/-- What becomes of a frame with a usable identifier. -/
def route (id : RequestId) (frame : Json) (router : Router) : Router × List Delivery :=
  match router.pending.get? id with
  | some entry =>
    complete id entry (Reply.outcomeOf (Reply.ofJson frame))
      { router with pending := router.pending.erase id }
  | none =>
    match router.routes.get? id.key with
    | some route => (router, [.event route.caller (eventOf frame)])
    | none => (router, [])

/-- What becomes of a text that the node sends. -/
def dispatch (text : String) (router : Router) : Router × List Delivery :=
  match Json.ofText? text with
  | none => (router, [])
  | some frame =>
    match frameId? frame with
    | none => (router, [])
    | some id => router.route id frame

/-- Takes out all that is known of an identifier. -/
def forget (id : RequestId) (router : Router) : Router × List Delivery :=
  (⟨router.pending.erase id, router.routes.erase id⟩,
    dropPending (router.pending.get? id) ++ dropRoute (router.routes.get? id))

/-- Takes out a subscription and says what query it had. -/
def takeRoute (id : RequestId) (router : Router) : Option String × Router × List Delivery :=
  let found := router.routes.get? id
  (found.bind Route.query, { router with routes := router.routes.erase id }, dropRoute found)

/-- The `transportClosed` for an entry when the task finishes. -/
def closePending : RequestId × Pending → List Delivery
  | (_, .call caller) => [.answer caller (.error .transportClosed)]
  | (_, .subscribe caller) => [.answer caller (.error .transportClosed)]
  | (_, .ignored _) => []

/-- The last event of a feed. -/
def closeRoute : RequestId × Route → List Delivery
  | (_, route) => [.event route.caller (.error .transportClosed), .endFeed route.caller]

/-- Empties the tables. Every entry and every route gets `transportClosed`. -/
def shutdown (router : Router) : Router × List Delivery :=
  (empty, router.pending.entries.flatMap closePending ++ router.routes.entries.flatMap closeRoute)

end Router

end Tendermint
