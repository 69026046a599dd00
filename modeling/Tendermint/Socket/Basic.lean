import Tendermint.Socket.Router

/-!
# Tendermint.Socket.Basic

A connection that many callers share. One task owns the socket and the router; callers hand it
commands through a queue and wait for what it delivers. A caller that listens gets a stream of
events once its subscription is acknowledged.

* `Socket`: the task, its queue and its callers.
* `Socket.handle`: the task carries out a command.
* `Socket.receive`: the task takes a frame.
* `Socket.deliver`: what reaches a caller.
-/

namespace Tendermint

/-- The commands to the task. -/
inductive SocketCommand where
  | call (request : Request) (caller : Nat)
  | listen (request : Request) (caller : Nat)
  | unsubscribe (id : RequestId)
  | forget (id : RequestId)
  | disconnect
  deriving DecidableEq, Repr

/-- The place at which the answer to a caller arrives. -/
inductive AnswerSlot where
  | empty
  | filled (outcome : Except RpcError Success)
  /-- No answer can come any more. -/
  | abandoned
  deriving Repr

/-- The place at which the events for a caller arrive. -/
structure FeedSlot where
  unread : List (Except RpcError Event)
  /-- Whether more may come. -/
  attached : Bool
  deriving Repr

/-- How far a caller has come. -/
inductive CallerStage where
  /-- It found the connection open and has not put its command into the queue yet. -/
  | admitted
  /-- It waits for its answer since some moment. -/
  | waiting (since : Duration)
  | resolved (outcome : Except RpcError Success)
  /-- Its future was dropped while it waited. -/
  | gone
  deriving Repr

structure Caller where
  request : Request
  /-- Whether it asks for a subscription. -/
  listens : Bool
  stage : CallerStage
  answer : AnswerSlot
  feed : FeedSlot
  /-- Whether it holds its stream of events. -/
  holds : Bool
  deriving Repr

/-- What comes in from the socket, closing aside. -/
inductive SocketFrame where
  | text (content : String)
  | binary (bytes : Bytes)
  /-- A frame of the protocol itself. -/
  | control
  deriving DecidableEq, Repr

/-- The text of a frame. Bytes that are no text are dropped. -/
def SocketFrame.text? : SocketFrame → Option String
  | .text content => some content
  | .binary bytes => Text.ofBytes? bytes
  | .control => none

/-- Where the task is in its life. -/
inductive SocketPhase where
  | running
  /-- It handles nothing more, which callers cannot know yet. -/
  | leaving
  | finished
  deriving DecidableEq, Repr

structure Socket where
  router : Router
  queue : List SocketCommand
  /-- What callers look at before they put a command into the queue. -/
  connected : Bool
  phase : SocketPhase
  callers : List Caller
  ids : RequestId.Counter
  now : Duration
  /-- How long a caller waits for its answer. -/
  timeout : Duration
  /-- What was written to the socket, the latest last. -/
  written : List Request
  deriving Repr

namespace FeedSlot

def start : FeedSlot := ⟨[], true⟩

def push (item : Except RpcError Event) (feed : FeedSlot) : FeedSlot :=
  if feed.attached then { feed with unread := feed.unread ++ [item] } else feed

def detach (feed : FeedSlot) : FeedSlot := { feed with attached := false }

end FeedSlot

namespace Caller

def start (request : Request) (listens : Bool) (stage : CallerStage) : Caller :=
  ⟨request, listens, stage, .empty, .start, false⟩

/-- Whether an answer can still reach it. -/
def awaits (caller : Caller) : Bool :=
  match caller.stage with
  | .waiting _ => true
  | _ => false

/-- Whether events can still reach it: while it waits for its subscription, and then for as
long as it holds its stream. -/
def hears (caller : Caller) : Bool := caller.listens && (caller.awaits || caller.holds)

/-- An answer counts if none came before it. -/
def answered (slot : AnswerSlot) (caller : Caller) : Caller :=
  match caller.answer with
  | .empty => if caller.awaits then { caller with answer := slot } else caller
  | _ => caller

def heard (item : Except RpcError Event) (caller : Caller) : Caller :=
  if caller.hears then { caller with feed := caller.feed.push item } else caller

/-- A caller has its outcome. A listener that succeeded holds its stream from here on. -/
def resolve (outcome : Except RpcError Success) (caller : Caller) : Caller :=
  { caller with
    stage := .resolved outcome
    holds := caller.listens && !Router.isFailure outcome }

end Caller

namespace Socket

/-- An open connection that nobody has used yet. -/
def opened (timeout : Duration) (ids : RequestId.Counter) : Socket where
  router := .empty
  queue := []
  connected := true
  phase := .running
  callers := []
  ids := ids
  now := ⟨0⟩
  timeout := timeout
  written := []

def modifyCaller (number : Nat) (f : Caller → Caller) (socket : Socket) : Socket :=
  { socket with callers := socket.callers.modify number f }

/-- One delivery. -/
def deliverOne (socket : Socket) : Delivery → Socket
  | .answer caller outcome => socket.modifyCaller caller (Caller.answered (.filled outcome))
  | .hangUp caller => socket.modifyCaller caller (Caller.answered .abandoned)
  | .event caller item => socket.modifyCaller caller (Caller.heard item)
  | .endFeed caller =>
    socket.modifyCaller caller fun c => { c with feed := c.feed.detach }

def deliver (deliveries : List Delivery) (socket : Socket) : Socket :=
  deliveries.foldl deliverOne socket

/-- What a change of the router brings. -/
def withRouter (change : Router × List Delivery) (socket : Socket) : Socket :=
  { socket with router := change.1 }.deliver change.2

def leave (socket : Socket) : Socket := { socket with phase := .leaving }

def write (request : Request) (socket : Socket) : Socket :=
  { socket with written := socket.written ++ [request] }

/-- Puts a command into the queue of the task, unless that has finished. -/
def enqueue (command : SocketCommand) (socket : Socket) : Socket :=
  match socket.phase with
  | .finished => socket
  | _ => { socket with queue := socket.queue ++ [command] }

def takeId (socket : Socket) : RequestId × Socket :=
  let (id, ids) := socket.ids.take
  (id, { socket with ids })

/-- A request that was not sent fails, and has no events. -/
def refuse (error : RpcError) (caller : Nat) (socket : Socket) : Socket :=
  socket.deliver [.answer caller (.error error), .endFeed caller]

/-- A request that cannot be sent fails, and the task handles nothing after it. -/
def failToSend (fault : NetworkFault) (caller : Nat) (socket : Socket) : Socket :=
  (socket.refuse (.webSocket fault) caller).leave

/-- The request that ends a subscription. -/
def unsubscription (id : RequestId) (query : String) : Request :=
  ⟨id, Method.unsubscribe.name, Params.subscription ⟨query⟩⟩

/-- Carries out a command. `fault` says why the socket cannot be written to, if it cannot. -/
def handle (fault : Option NetworkFault) (socket : Socket) : SocketCommand → Socket
  | .call request caller =>
    if socket.router.isOutstanding request.id then socket.refuse (.duplicateId request.id) caller
    else
      match fault with
      | some fault => socket.failToSend fault caller
      | none => (socket.write request).withRouter (socket.router.admitCall request.id caller)
  | .listen request caller =>
    if socket.router.isOutstanding request.id then socket.refuse (.duplicateId request.id) caller
    else
      match fault with
      | some fault => socket.failToSend fault caller
      | none =>
        (socket.write request).withRouter
          (socket.router.admitSubscription request.id request.query? caller)
  | .unsubscribe id =>
    let (query, change) := socket.router.takeRoute id
    let socket := socket.withRouter change
    match query with
    | none => socket
    | some query =>
      let (fresh, socket) := socket.takeId
      if fault.isSome then socket.leave
      else
        (socket.write (unsubscription fresh query)).withRouter
          ((socket.router.expireIgnored socket.now socket.timeout).admitIgnored fresh socket.now)
  | .forget id => socket.withRouter (socket.router.forget id)
  | .disconnect => socket.leave

/-- Hands a frame to the router. -/
def receive (frame : SocketFrame) (socket : Socket) : Socket :=
  match frame.text? with
  | some text => socket.withRouter (socket.router.dispatch text)
  | none => socket

/-- A command that is thrown away takes the caller's answer and feed with it. -/
def discard (socket : Socket) : SocketCommand → Socket
  | .call _ caller => socket.deliver [.hangUp caller]
  | .listen _ caller => socket.deliver [.hangUp caller, .endFeed caller]
  | _ => socket

/-- The task finishes: the queue takes no more commands, every entry and every route gets
`transportClosed`, and what is still in the queue is dropped. -/
def finish (socket : Socket) : Socket :=
  let closed := { socket with phase := .finished, connected := false, queue := [] }
  socket.queue.foldl discard (closed.withRouter closed.router.shutdown)

end Socket

end Tendermint
