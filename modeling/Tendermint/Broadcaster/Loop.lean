import Tendermint.Broadcaster.Step
import Tendermint.Broadcaster.Wait

/-!
# Tendermint.Broadcaster.Loop

A broadcaster in one thread with a queue of tasks, which run in the order in which they were
queued. Stops that are put off and waits for a value are such tasks; a wait that has nothing to do
sleeps until a value or the end reaches its listener. Without a queue a stop is carried out on
the spot and there are no waits. Whatever happens here happens in steps of the broadcaster.

* `Loop.subscribe`, `Loop.poll`, `Loop.leave`, `Loop.signal`, `Loop.release`: on the spot.
* `Loop.waitFor`, `Loop.cancel`, `Loop.outcome?`: waits.
* `Loop.drain`: runs the queue until it is empty.
-/

namespace Tendermint

/-- What a producer says to its broadcaster. -/
inductive Signal (α ε : Type) where
  | update (a : α)
  | complete
  | fail (error : ε)
  deriving DecidableEq, Repr

/-- A call of the producer, with what came of each signal that it gave while it started. Only
an update is answered. -/
inductive CallRecord where
  | start (answers : List (Option Bool))
  | stop
  deriving DecidableEq, Repr

/-- A wait for a value that a test without memory accepts. -/
structure WaitTask (α : Type) where
  accepts : α → Bool
  /-- How far it has come, once it has had its first turn. -/
  wait : Option (Wait α Unit)
  cancelled : Bool

/-- A task in the queue. Stops are carried out in the order in which they were put off. -/
inductive Task where
  | stop
  | wait (number : Nat)
  deriving DecidableEq, Repr

structure Loop (α ε : Type) where
  state : Broadcaster α ε
  /-- Whether there is a queue. -/
  deferred : Bool
  /-- What the producer says whenever it is started. -/
  signals : List (Signal α ε)
  queue : List Task
  /-- All waits so far; a wait is known by its place. -/
  waits : List (WaitTask α)
  /-- The calls of the producer so far, the latest last. -/
  records : List CallRecord

namespace Loop

variable {α ε : Type}

/-- A broadcaster with a producer that says the given signals, or without one. -/
def ofValue (deferred : Bool) (producer : Option (List (Signal α ε))) (value : α) : Loop α ε where
  state := .ofValue producer.isSome value
  deferred := deferred
  signals := producer.getD []
  queue := []
  waits := []
  records := []

/-- The stops among the calls that one state has more than another. -/
def newStops (earlier later : Broadcaster α ε) : List CallRecord :=
  (later.calls.drop earlier.calls.length).filterMap fun
    | .start => none
    | .stop => some .stop

/-- One step of the broadcaster, where it is possible. -/
def perform (action : Broadcaster.Action α ε) (loop : Loop α ε) : Loop α ε :=
  match loop.state.step action with
  | none => loop
  | some state => { loop with state, records := loop.records ++ newStops loop.state state }

/-- Queues a task that is not queued yet. -/
def enqueue (task : Task) (loop : Loop α ε) : Loop α ε :=
  if task ∈ loop.queue then loop else { loop with queue := loop.queue ++ [task] }

def isFollowing (listener : Nat) (task : WaitTask α) : Bool :=
  task.wait.bind Wait.listener? == some listener

/-- Queues the wait behind a listener, if there is one. -/
def wakeListener (loop : Loop α ε) (listener : Listener α) : Loop α ε :=
  match loop.waits.findIdx? (isFollowing listener.id) with
  | some number => loop.enqueue (.wait number)
  | none => loop

/-- A step that reaches all listeners, and wakes the waits behind them. -/
def announce (action : Broadcaster.Action α ε) (loop : Loop α ε) : Loop α ε :=
  loop.state.attached.foldl wakeListener (loop.perform action)

/-- What a producer says, and the answer to it. -/
def signal (signal : Signal α ε) (loop : Loop α ε) : Option Bool × Loop α ε :=
  match signal with
  | .update a => (some loop.state.accepts, loop.announce (.publish a))
  | .complete => (none, loop.announce (.finish .completed))
  | .fail e => (none, loop.announce (.finish (.failed e)))

/-- All that the producer says, one thing after the other. -/
def signalAll : List (Signal α ε) → Loop α ε → List (Option Bool) × Loop α ε
  | [], loop => ([], loop)
  | s :: rest, loop =>
    let (answer, loop) := loop.signal s
    let (answers, loop) := signalAll rest loop
    (answer :: answers, loop)

/-- Subscribes, and starts the producer if it is called for. -/
def subscribe (loop : Loop α ε) : Nat × Loop α ε :=
  let id := loop.state.nextId
  let begun := loop.perform .subscribe
  if begun.state.transition = .starting id then
    let (answers, loop) := signalAll begun.signals begun
    let noted : Loop α ε := { loop with records := loop.records ++ [.start answers] }
    (id, noted.perform .started)
  else (id, begun)

/-- What a listener finds without waiting, and the loop after it has read that. -/
def poll (id : Nat) (loop : Loop α ε) : Option (Poll α) × Loop α ε :=
  ((loop.state.listener? id).map Listener.poll, loop.perform (.readNext id))

/-- Carries out the first of the stops that were put off. -/
def runStop (loop : Loop α ε) : Loop α ε := (loop.perform (.stop 0)).perform .stopped

/-- Drops a stream. -/
def leave (id : Nat) (loop : Loop α ε) : Loop α ε :=
  let left := loop.perform (.leave id)
  if loop.state.stops.length < left.state.stops.length then
    if left.deferred then { left with queue := left.queue ++ [.stop] } else left.runStop
  else left

/-- Drops a handle. -/
def release (loop : Loop α ε) : Loop α ε := loop.perform .release

/-- Queues a wait, which has a handle of its own. There is none without a queue. -/
def waitFor (accepts : α → Bool) (loop : Loop α ε) : Option (Nat × Loop α ε) :=
  if loop.deferred then
    let number := loop.waits.length
    let shared := loop.perform .share
    let begun : Loop α ε := { shared with waits := loop.waits ++ [⟨accepts, none, false⟩] }
    some (number, begun.enqueue (.wait number))
  else none

def modifyWait (number : Nat) (f : WaitTask α → WaitTask α) (loop : Loop α ε) : Loop α ε :=
  { loop with waits := loop.waits.modify number f }

def setWait (number : Nat) (wait : Wait α Unit) (loop : Loop α ε) : Loop α ε :=
  loop.modifyWait number fun task => { task with wait := some wait }

/-- What a wait has come to, once it has: a value, or the end without one. -/
def outcome? (number : Nat) (loop : Loop α ε) : Option (Option α) :=
  match loop.waits[number]? with
  | some ⟨_, some (.settled found), _⟩ => some found
  | _ => none

/-- Calls a wait off. It learns of that when its turn comes. -/
def cancel (number : Nat) (loop : Loop α ε) : Loop α ε :=
  if number < loop.waits.length ∧ loop.outcome? number = none then
    (loop.modifyWait number fun task => { task with cancelled := true }).enqueue (.wait number)
  else loop

/-- A step that a wait takes. With its stream it also drops its handle. -/
def carryOut (action : Broadcaster.Action α ε) (loop : Loop α ε) : Loop α ε :=
  match action with
  | .leave listener => (loop.leave listener).release
  | action => loop.perform action

/-- A wait that was called off does what it would do at the end of its stream. -/
def abandon (number : Nat) (wait : Option (Wait α Unit)) (loop : Loop α ε) : Loop α ε :=
  match wait.bind Wait.listener? with
  | some listener => (loop.carryOut (.leave listener)).setWait number (.settled none)
  | none => loop.release.setWait number (.settled none)

/-- A wait does what there is to do, so many steps at most. -/
def follow (number : Nat) (accepts : α → Bool) : Nat → Wait α Unit → Loop α ε → Loop α ε
  | 0, _, loop => loop
  | steps + 1, wait, loop =>
    match wait.next (fun _ a => (accepts a, ())) loop.state with
    | none => loop
    | some (action, wait) =>
      follow number accepts steps wait ((loop.carryOut action).setWait number wait)

/-- How many steps a wait can take at once: it reads what is there and gives its stream up. -/
def stepsLeft (wait : Wait α Unit) (loop : Loop α ε) : Nat :=
  match wait.listener?.bind loop.state.listener? with
  | some stream => stream.unread.length + 1
  | none => 0

/-- The turn of a wait. -/
def runWait (number : Nat) (loop : Loop α ε) : Loop α ε :=
  match loop.waits[number]? with
  | none => loop
  | some task =>
    match task.wait, task.cancelled with
    | some (.settled _), _ => loop
    | wait, true => loop.abandon number wait
    | none, false =>
      let (listener, loop) := loop.subscribe
      let wait := .following listener ()
      let begun := loop.setWait number wait
      begun.follow number task.accepts (begun.stepsLeft wait) wait
    | some wait, false => loop.follow number task.accepts (loop.stepsLeft wait) wait

def runTask : Task → Loop α ε → Loop α ε
  | .stop, loop => loop.runStop
  | .wait number, loop => loop.runWait number

/-- Runs so many tasks at most. -/
def runTasks : Nat → Loop α ε → Loop α ε
  | 0, loop => loop
  | turns + 1, loop =>
    match loop.queue with
    | [] => loop
    | task :: rest => runTasks turns (runTask task { loop with queue := rest })

/-- More turns than a queue can take. Each wait starts once, wakes every other one at most, and
puts off one stop at most. -/
def turns (loop : Loop α ε) : Nat :=
  loop.queue.length + loop.waits.length * (loop.waits.length + 3)

/-- Runs the queue until it is empty. -/
def drain (loop : Loop α ε) : Loop α ε := loop.runTasks loop.turns

end Loop

end Tendermint
