import Tendermint.Broadcaster.Step
import Tendermint.Client.Subscription

/-!
# Tendermint.Client.HeightWatch

The height of a chain as a live value. The producer's start spawns a task that keeps a subscription
to headers open and publishes the height of each; a malformed event is skipped. The watch fails if
the subscription is rejected or with `TransportClosed`, and completes when the feed ends. The
producer's stop aborts the task.

The broadcaster has changed its state, and let go of it, before its producer is called; so a call
is carried out in a step of its own, and the task goes on in between. An abort does not wait for the
task either. A task runs in polls, beside all else: a poll that is under way when the task is
aborted goes on until it is pending, and may read and publish until then. Only then is the task
dropped, and by then there may be another one. To read an item and to publish its height is one
step, for nobody else sees what is in between.

* `HeightWatch.step`: what can happen, one thing at a time.
* `HeightWatch.run`: the watch after a list of actions.
* `Client.watchHeight`: the watch that a client makes.
-/

namespace Tendermint

/-- How far a live task behind a watch has come. -/
inductive WatchStage where
  /-- It waits for its subscription. -/
  | opening
  /-- It reads headers. -/
  | following
  deriving DecidableEq, Repr

/-- A task behind a watch. -/
inductive WatchTask where
  /-- Whether a poll of it is under way, and whether it was aborted. -/
  | live (stage : WatchStage) (polled aborted : Bool)
  /-- It has come to its end, or was dropped. -/
  | gone
  deriving DecidableEq, Repr

namespace WatchTask

def beginPoll : WatchTask → WatchTask
  | .live stage _ aborted => .live stage true aborted
  | .gone => .gone

def endPoll : WatchTask → WatchTask
  | .live stage _ aborted => .live stage false aborted
  | .gone => .gone

def follow : WatchTask → WatchTask
  | .live _ polled aborted => .live .following polled aborted
  | .gone => .gone

/-- Marks the task. A poll that is under way does not see the mark. -/
def abort : WatchTask → WatchTask
  | .live stage polled _ => .live stage polled true
  | .gone => .gone

/-- Whether a poll of it can begin. -/
def isIdle : WatchTask → Bool
  | .live _ polled aborted => !polled && !aborted
  | .gone => false

/-- Whether a poll of it is under way. -/
def isPolled : WatchTask → Bool
  | .live _ polled _ => polled
  | .gone => false

/-- Whether it has come as far as this, and a poll of it is under way. -/
def isAt (stage : WatchStage) : WatchTask → Bool
  | .live reached polled _ => polled && reached = stage
  | .gone => false

/-- Whether it can be dropped. -/
def isDroppable : WatchTask → Bool
  | .live _ polled aborted => !polled && aborted
  | .gone => false

end WatchTask

structure HeightWatch where
  broadcaster : Broadcaster UInt64 ClientError
  /-- How many calls of the producer have been carried out. -/
  carriedOut : Nat
  /-- The tasks so far; a task is known by its place. -/
  tasks : List WatchTask
  /-- The task that the producer keeps hold of, whether or not that has come to its end. -/
  held : Option Nat
  deriving DecidableEq, Repr

namespace HeightWatch

/-- What can happen. -/
inductive Action where
  /-- Something happens to the listeners, to a stop or to a handle. -/
  | listeners (action : Broadcaster.Action UInt64 ClientError)
  /-- The producer carries out the next of its calls, inside of a runtime that can run tasks or
  outside of any. -/
  | carryOut (runtime : Bool)
  /-- A poll of a task begins. -/
  | poll (task : Nat)
  /-- The poll of a task is pending, and so at its end. -/
  | pending (task : Nat)
  /-- A task that was aborted is dropped. -/
  | drop (task : Nat)
  /-- The subscription of a task stands. -/
  | opened (task : Nat)
  | refused (task : Nat) (error : ClientError)
  /-- The feed of a task brings something. -/
  | item (task : Nat) (item : Except ClientError Header)
  | feedEnds (task : Nat)

/-- A watch that starts at some height and that nobody follows yet. -/
def ofHeight (height : UInt64) : HeightWatch := ⟨.ofValue true height, 0, [], none⟩

/-- The call of the producer that is to be carried out next. -/
def due (watch : HeightWatch) : Option ProducerCall := watch.broadcaster.calls[watch.carriedOut]?

def modifyTask (task : Nat) (f : WatchTask → WatchTask) (watch : HeightWatch) : HeightWatch :=
  { watch with tasks := watch.tasks.modify task f }

/-- A task comes to its end. -/
def leave (task : Nat) (watch : HeightWatch) : HeightWatch := watch.modifyTask task fun _ => .gone

/-- Aborts the task that the producer holds, and lets go of it. -/
def abortHeld (watch : HeightWatch) : HeightWatch :=
  match watch.held with
  | none => watch
  | some task => { watch.modifyTask task .abort with held := none }

/-- A new task takes the place of the one that the producer held. -/
def spawn (watch : HeightWatch) : HeightWatch :=
  let left := watch.abortHeld
  { left with
    tasks := left.tasks ++ [.live .opening false false]
    held := some left.tasks.length }

/-- Whether an action is the return from a call of the producer. -/
def isReturn : Broadcaster.Action UInt64 ClientError → Bool
  | .started | .stopped => true
  | _ => false

/-- A step of the broadcaster. It returns from a call of its producer when that was carried out. -/
def withBroadcaster (action : Broadcaster.Action UInt64 ClientError) (watch : HeightWatch) :
    Option HeightWatch :=
  if isReturn action && watch.due.isSome then none
  else (watch.broadcaster.step action).map fun next => { watch with broadcaster := next }

/-- Publishes or ends, if the broadcaster is still there. -/
def say (action : Broadcaster.Action UInt64 ClientError) (watch : HeightWatch) : HeightWatch :=
  match watch.broadcaster.step action with
  | none => watch
  | some next => { watch with broadcaster := next }

/-- A task ends the watch, and so itself. -/
def conclude (task : Nat) (ending : Ending ClientError) (watch : HeightWatch) : HeightWatch :=
  (watch.say (.finish ending)).leave task

/-- A task reads an item of its feed. It comes to its end if nobody takes the height. -/
def read (task : Nat) (item : Except ClientError Header) (watch : HeightWatch) : HeightWatch :=
  match item with
  | .ok header =>
    if watch.broadcaster.accepts then watch.say (.publish header.height) else watch.leave task
  | .error e => if e = .rpc .transportClosed then watch.conclude task (.failed e) else watch

/-- What the producer does for a call. Outside of any runtime its start gives up. -/
def obey (runtime : Bool) (watch : HeightWatch) : ProducerCall → HeightWatch
  | .start => if runtime then watch.spawn else watch.say (.finish (.failed (.config .noRuntime)))
  | .stop => watch.abortHeld

/-- Carries out the call that is due. -/
def carryOut (runtime : Bool) (watch : HeightWatch) : Option HeightWatch :=
  watch.due.map fun call => { watch.obey runtime call with carriedOut := watch.carriedOut + 1 }

/-- Whether there is such a task, and it is in such a state. -/
def taskIs (state : WatchTask → Bool) (task : Nat) (watch : HeightWatch) : Bool :=
  watch.tasks[task]?.any state

/-- The watch after an action, if the action is possible. -/
def step (action : Action) (watch : HeightWatch) : Option HeightWatch :=
  match action with
  | .listeners action => watch.withBroadcaster action
  | .carryOut runtime => watch.carryOut runtime
  | .poll task =>
    if watch.taskIs WatchTask.isIdle task then some (watch.modifyTask task .beginPoll) else none
  | .pending task =>
    if watch.taskIs WatchTask.isPolled task then some (watch.modifyTask task .endPoll) else none
  | .drop task => if watch.taskIs WatchTask.isDroppable task then some (watch.leave task) else none
  | .opened task =>
    if watch.taskIs (WatchTask.isAt .opening) task then some (watch.modifyTask task .follow)
    else none
  | .refused task error =>
    if watch.taskIs (WatchTask.isAt .opening) task then some (watch.conclude task (.failed error))
    else none
  | .item task item =>
    if watch.taskIs (WatchTask.isAt .following) task then some (watch.read task item) else none
  | .feedEnds task =>
    if watch.taskIs (WatchTask.isAt .following) task then some (watch.conclude task .completed)
    else none

/-- The watch after some actions in a row, if all of them are possible. -/
def run : List Action → HeightWatch → Option HeightWatch
  | [], watch => some watch
  | action :: rest, watch => (watch.step action).bind (run rest)

end HeightWatch

/-- Asks for the height at which a watch starts. The watch subscribes when somebody follows it. -/
def Client.watchHeight (client : Client) (streaming : Bool) : Call HeightWatch :=
  (client.heightSeed streaming).map HeightWatch.ofHeight

end Tendermint
