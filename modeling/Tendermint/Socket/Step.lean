import Tendermint.Socket.Basic

/-!
# Tendermint.Socket.Step

What can happen on a shared connection, one thing at a time and in any order: callers come, put
their commands into the queue, wait, are answered, time out or are dropped; the task takes commands
and frames; the clock moves on.

* `Socket.step`: the connection after an action, if the action is possible.
* `Socket.Reachable`: what any order of actions can lead to.
* `Socket.run`: the connection after a list of actions.
-/

namespace Tendermint

namespace Socket

/-- What can happen. -/
inductive Action where
  /-- A caller comes with a request under an identifier of its own. -/
  | begin (listens : Bool) (request : Request)
  /-- A caller comes with a request under the next identifier. -/
  | beginNext (listens : Bool) (method : String) (params : Params)
  /-- An admitted caller puts its command into the queue. -/
  | submit (caller : Nat)
  /-- A caller takes the answer that has arrived. -/
  | resume (caller : Nat)
  /-- A caller has waited for too long. -/
  | expire (caller : Nat)
  /-- The future of a caller is dropped while it waits. -/
  | abandon (caller : Nat)
  /-- A listener reads one event. -/
  | read (caller : Nat)
  /-- A listener drops its stream. -/
  | dropStream (caller : Nat)
  /-- The client marks the connection as closed, with which it begins to disconnect. -/
  | markClosed
  /-- The client puts `disconnect` into the queue, which is the rest of disconnecting and all that
  its last handle does when it is dropped. -/
  | askDisconnect
  /-- The task takes the first command; writing may fail. -/
  | handleNext (fault : Option NetworkFault)
  /-- Something comes in from the node. -/
  | receive (frame : SocketFrame)
  /-- The node closes the connection, or the connection breaks. -/
  | lose
  /-- The task finishes. -/
  | finish
  /-- Time passes. -/
  | pass (duration : Duration)
  /-- An identifier is taken for something else. -/
  | skipId
  deriving DecidableEq

/-- A caller finds the connection open or has its outcome at once. -/
def beginWith (listens : Bool) (request : Request) (socket : Socket) : Socket :=
  let stage := if socket.connected then .admitted else .resolved (.error .notConnected)
  { socket with callers := socket.callers ++ [.start request listens stage] }

def commandOf (number : Nat) (caller : Caller) : SocketCommand :=
  if caller.listens then .listen caller.request number else .call caller.request number

/-- An admitted caller puts its command into the queue, or fails with `notConnected`. -/
def submitFrom (number : Nat) (caller : Caller) (socket : Socket) : Socket :=
  match socket.phase with
  | .finished => socket.modifyCaller number (Caller.resolve (.error .notConnected))
  | _ =>
    (socket.enqueue (commandOf number caller)).modifyCaller number fun c =>
      { c with stage := .waiting socket.now }

/-- The outcome that a caller finds in its slot. -/
def outcome? : AnswerSlot → Option (Except RpcError Success)
  | .empty => none
  | .filled outcome => some outcome
  | .abandoned => some (.error .transportClosed)

/-- A caller fails with `timeout` and puts `forget` into the queue. -/
def expireFrom (number : Nat) (caller : Caller) (socket : Socket) : Socket :=
  (socket.enqueue (.forget caller.request.id)).modifyCaller number
    (Caller.resolve (.error (.timeout socket.timeout)))

/-- What an action of one caller does, if it is possible. -/
def callerStep (socket : Socket) (number : Nat) (caller : Caller) : Action → Option Socket
  | .submit _ =>
    match caller.stage with
    | .admitted => some (socket.submitFrom number caller)
    | _ => none
  | .resume _ =>
    match caller.stage, outcome? caller.answer with
    | .waiting _, some outcome => some (socket.modifyCaller number (Caller.resolve outcome))
    | _, _ => none
  | .expire _ =>
    match caller.stage with
    | .waiting since =>
      if since.nanoseconds + socket.timeout.nanoseconds ≤ socket.now.nanoseconds then
        some (socket.expireFrom number caller)
      else none
    | _ => none
  | .abandon _ =>
    match caller.stage with
    | .waiting _ => some (socket.modifyCaller number fun c => { c with stage := .gone })
    | _ => none
  | .read _ =>
    if caller.holds then
      some (socket.modifyCaller number fun c =>
        { c with feed := { c.feed with unread := c.feed.unread.tail } })
    else none
  | .dropStream _ =>
    if caller.holds then
      some ((socket.enqueue (.unsubscribe caller.request.id)).modifyCaller number fun c =>
        { c with holds := false })
    else none
  | _ => none

/-- The caller that an action is about. -/
def Action.caller? : Action → Option Nat
  | .submit number => some number
  | .resume number => some number
  | .expire number => some number
  | .abandon number => some number
  | .read number => some number
  | .dropStream number => some number
  | _ => none

/-- What an action that is about no caller does, if it is possible. -/
def taskStep (socket : Socket) : Action → Option Socket
  | .begin listens request => some (socket.beginWith listens request)
  | .beginNext listens method params =>
    let (id, socket) := socket.takeId
    some (socket.beginWith listens ⟨id, method, params⟩)
  | .markClosed => some { socket with connected := false }
  | .askDisconnect => some (socket.enqueue .disconnect)
  | .handleNext fault =>
    match socket.phase, socket.queue with
    | .running, command :: rest => some ({ socket with queue := rest }.handle fault command)
    | _, _ => none
  | .receive frame =>
    match socket.phase with
    | .running => some (socket.receive frame)
    | _ => none
  | .lose =>
    match socket.phase with
    | .running => some socket.leave
    | _ => none
  | .finish =>
    match socket.phase with
    | .leaving => some socket.finish
    | _ => none
  | .pass duration => some { socket with now := ⟨socket.now.nanoseconds + duration.nanoseconds⟩ }
  | .skipId => some socket.takeId.2
  | _ => none

/-- The connection after an action, if the action is possible. -/
def step (action : Action) (socket : Socket) : Option Socket :=
  match action.caller? with
  | none => socket.taskStep action
  | some number =>
    match socket.callers[number]? with
    | none => none
    | some caller => socket.callerStep number caller action

/-- What can come of a connection. -/
inductive Reachable (timeout : Duration) (ids : RequestId.Counter) : Socket → Prop where
  | start : Reachable timeout ids (opened timeout ids)
  | next {s t : Socket} {action : Action} :
      Reachable timeout ids s → s.step action = some t → Reachable timeout ids t

/-- The connection after some actions in a row, if all of them are possible. -/
def run : List Action → Socket → Option Socket
  | [], socket => some socket
  | action :: rest, socket => (socket.step action).bind (run rest)

end Socket

end Tendermint
