/-!
# Tendermint.Broadcaster.Basic

A live value with any number of listeners. Each listener first gets the value of the moment at
which it subscribes and then every later one, in order. A producer may stand behind the value:
it is started when the first listener comes and stopped some time after the last one has left,
unless somebody subscribes in between. A broadcaster ends when its producer completes or fails, and
stays ended.

The functions here are the moments at which the state changes, each of them atomic.
`Broadcaster.Step` says in which order they may happen.

* `publish`, `finish`: what a producer, or anybody with a handle, does to the value.
* `subscribe`, `leave`, `readNext`: what listeners do.
* `beginStop`, `collect`: how the producer is stopped.
-/

namespace Tendermint

/-- How a broadcaster came to its end. -/
inductive Ending (ε : Type) where
  | completed
  | failed (error : ε)
  deriving DecidableEq, Repr

/-- A call of the producer. -/
inductive ProducerCall where
  | start
  | stop
  deriving DecidableEq, Repr

/-- The call that the producer is in. While it is in one, no other can begin. -/
inductive Transition where
  | none
  /-- A start, on behalf of a listener that does not have its stream yet. -/
  | starting (listener : Nat)
  | stopping
  deriving DecidableEq, Repr

/-- The stream of one listener. -/
structure Listener (α : Type) where
  id : Nat
  /-- What was sent and has not been read. -/
  unread : List α
  /-- Whether later values will be sent. -/
  attached : Bool
  deriving DecidableEq, Repr

/-- What a listener finds when it looks at its stream without waiting. -/
inductive Poll (α : Type) where
  | value (a : α)
  | pending
  | ended
  deriving DecidableEq, Repr

/-- `nextId` and `epoch` count subscriptions. Counters of 64 bits would wrap only after `2 ^ 64` of
them, which is out of reach, so they are natural numbers here. -/
structure Broadcaster (α ε : Type) where
  value : α
  /-- The streams that somebody holds, in the order in which they were subscribed. -/
  listeners : List (Listener α)
  /-- The name of the next listener. -/
  nextId : Nat
  /-- Whether the producer is wanted: set by a subscription, cleared by a stop. -/
  active : Bool
  /-- How many subscriptions there were. A stop that was put off knows by it that it is late. -/
  epoch : Nat
  ending : Option (Ending ε)
  /-- Whether there is a producer. -/
  driven : Bool
  transition : Transition
  /-- The stops that were put off, each with the epoch at which the last listener left. -/
  stops : List Nat
  /-- How many handles there are, streams aside. -/
  handles : Nat
  /-- The calls of the producer so far, the latest last. -/
  calls : List ProducerCall
  deriving DecidableEq, Repr

namespace Listener

variable {α : Type}

def send (a : α) (listener : Listener α) : Listener α :=
  if listener.attached then { listener with unread := listener.unread ++ [a] } else listener

def detach (listener : Listener α) : Listener α := { listener with attached := false }

/-- A stream ends when all is read and nothing more can come. -/
def poll (listener : Listener α) : Poll α :=
  match listener.unread with
  | a :: _ => .value a
  | [] => if listener.attached then .pending else .ended

def advance (listener : Listener α) : Listener α := { listener with unread := listener.unread.tail }

end Listener

namespace Broadcaster

variable {α ε : Type}

/-- A broadcaster that nobody listens to, held by one handle. -/
def ofValue (driven : Bool) (value : α) : Broadcaster α ε where
  value := value
  listeners := []
  nextId := 0
  active := false
  epoch := 0
  ending := none
  driven := driven
  transition := .none
  stops := []
  handles := 1
  calls := []

def isEnded (b : Broadcaster α ε) : Bool := b.ending.isSome

/-- The failure that it ended with. -/
def error? (b : Broadcaster α ε) : Option ε :=
  match b.ending with
  | some (.failed e) => some e
  | _ => none

/-- The listeners that later values are sent to. -/
def attached (b : Broadcaster α ε) : List (Listener α) := b.listeners.filter Listener.attached

/-- How many listeners there are, those of an ended broadcaster aside. -/
def listenerCount (b : Broadcaster α ε) : Nat := b.attached.length

def listener? (b : Broadcaster α ε) (id : Nat) : Option (Listener α) :=
  b.listeners.find? (·.id == id)

/-- Changes the stream of one listener. -/
def modifyListener (b : Broadcaster α ε) (id : Nat) (f : Listener α → Listener α) :
    Broadcaster α ε :=
  { b with listeners := b.listeners.map fun l => if l.id = id then f l else l }

/-- Sends a new value to everybody. An ended broadcaster keeps its last value. -/
def publish (a : α) (b : Broadcaster α ε) : Broadcaster α ε :=
  if b.isEnded then b else { b with value := a, listeners := b.listeners.map (Listener.send a) }

/-- Ends the broadcaster. The first end counts. -/
def finish (ending : Ending ε) (b : Broadcaster α ε) : Broadcaster α ε :=
  if b.isEnded then b
  else { b with ending := some ending, listeners := b.listeners.map Listener.detach }

/-- A new listener, which starts with the value of the moment. On an ended broadcaster that is
also the last one and nothing else happens. Otherwise the producer is called for if it does not
run. -/
def subscribe (b : Broadcaster α ε) : Broadcaster α ε :=
  if b.isEnded then
    { b with listeners := b.listeners ++ [⟨b.nextId, [b.value], false⟩], nextId := b.nextId + 1 }
  else
    let starts := !b.active && b.driven
    { b with
      listeners := b.listeners ++ [⟨b.nextId, [b.value], true⟩]
      nextId := b.nextId + 1
      active := true
      epoch := b.epoch + 1
      transition := if starts then .starting b.nextId else b.transition
      calls := if starts then b.calls ++ [.start] else b.calls }

/-- A listener reads one value. -/
def readNext (id : Nat) (b : Broadcaster α ε) : Broadcaster α ε := b.modifyListener id Listener.advance

/-- A listener drops its stream. When nobody is left a stop is put off for later. -/
def leave (id : Nat) (b : Broadcaster α ε) : Broadcaster α ε :=
  let rest := { b with listeners := b.listeners.filter fun l => l.id != id }
  if rest.attached.isEmpty then { rest with stops := rest.stops ++ [rest.epoch] } else rest

/-- Carries out a stop that was put off at an epoch. It is late if somebody has subscribed
since, and has nothing to do if the producer does not run. -/
def beginStop (epoch : Nat) (b : Broadcaster α ε) : Broadcaster α ε :=
  if b.epoch = epoch ∧ b.attached.isEmpty ∧ b.active then
    if b.driven then
      { b with active := false, transition := .stopping, calls := b.calls ++ [.stop] }
    else { b with active := false }
  else b

/-- Nobody can reach the broadcaster any more: there is no handle, no stream, no stop to come
and no call under way. -/
def isAbandoned (b : Broadcaster α ε) : Bool :=
  b.handles = 0 && b.listeners.isEmpty && b.stops.isEmpty && b.transition = .none

/-- An abandoned broadcaster stops its producer if that still runs. -/
def collect (b : Broadcaster α ε) : Broadcaster α ε :=
  if b.isAbandoned && b.active then
    { b with active := false, calls := if b.driven then b.calls ++ [.stop] else b.calls }
  else b

end Broadcaster

end Tendermint
