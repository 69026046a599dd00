import Tendermint.Broadcaster.Basic

/-!
# Tendermint.Broadcaster.Step

What can happen to a broadcaster, one thing at a time. Subscriptions and stops exclude each
other for as long as they take, calls of the producer included; updates, ends, departures and
readings may come at any moment, also from inside a start.

* `Broadcaster.step`: the state after an action, if the action is possible.
* `Broadcaster.Reachable`: what any order of actions can lead to.
* `Broadcaster.run`: the state after a list of actions.
-/

namespace Tendermint

namespace Broadcaster

variable {α ε : Type}

/-- What can happen. -/
inductive Action (α ε : Type) where
  /-- Somebody with a handle subscribes. -/
  | subscribe
  /-- The producer's start returns, and the listener gets its stream. -/
  | started
  | publish (a : α)
  | finish (ending : Ending ε)
  | readNext (listener : Nat)
  | leave (listener : Nat)
  /-- One of the stops that were put off is carried out, whichever it is. -/
  | stop (position : Nat)
  /-- The producer's stop returns. -/
  | stopped
  /-- One of the stops that were put off never comes. -/
  | dropStop (position : Nat)
  /-- A handle is copied. -/
  | share
  /-- A handle is dropped. -/
  | release
  deriving DecidableEq, Repr

/-- Whether somebody holds this stream. The producer's start stands between a new listener and
its stream. -/
def holds (b : Broadcaster α ε) (listener : Nat) : Bool :=
  (b.listener? listener).isSome && b.transition != .starting listener

/-- Whether a new value would be taken. -/
def accepts (b : Broadcaster α ε) : Bool := !b.isEnded && !b.isAbandoned

/-- How many handles are bound to a call that is under way. -/
def boundHandles (b : Broadcaster α ε) : Nat :=
  match b.transition with
  | .starting _ => 1
  | _ => 0

/-- Takes one stop out of those that were put off. -/
def withoutStop (position : Nat) (b : Broadcaster α ε) : Broadcaster α ε :=
  { b with stops := b.stops.eraseIdx position }

/-- What an action does, if it is possible. -/
def act : Action α ε → Broadcaster α ε → Option (Broadcaster α ε)
  | .subscribe, b =>
    if b.transition = .none ∧ 0 < b.handles then some b.subscribe else none
  | .started, b =>
    match b.transition with
    | .starting _ => some { b with transition := .none }
    | _ => none
  | .publish a, b => if b.isAbandoned then none else some (b.publish a)
  | .finish ending, b => if b.isAbandoned then none else some (b.finish ending)
  | .readNext id, b => if b.holds id then some (b.readNext id) else none
  | .leave id, b => if b.holds id then some (b.leave id) else none
  | .stop position, b =>
    match b.stops[position]? with
    | none => none
    | some epoch =>
      if b.transition = .none then some ((b.withoutStop position).beginStop epoch) else none
  | .stopped, b => if b.transition = .stopping then some { b with transition := .none } else none
  | .dropStop position, b =>
    if position < b.stops.length then some (b.withoutStop position) else none
  | .share, b => if 0 < b.handles then some { b with handles := b.handles + 1 } else none
  | .release, b =>
    if b.boundHandles < b.handles then some { b with handles := b.handles - 1 } else none

/-- The state after an action. Whatever leaves the broadcaster abandoned also ends its
producer. -/
def step (action : Action α ε) (b : Broadcaster α ε) : Option (Broadcaster α ε) :=
  (b.act action).map collect

/-- What can come of a broadcaster. -/
inductive Reachable (driven : Bool) (value : α) : Broadcaster α ε → Prop where
  | start : Reachable driven value (ofValue driven value)
  | next {b c : Broadcaster α ε} {action : Action α ε} :
      Reachable driven value b → b.step action = some c → Reachable driven value c

/-- The state after some actions in a row, if all of them are possible. -/
def run : List (Action α ε) → Broadcaster α ε → Option (Broadcaster α ε)
  | [], b => some b
  | action :: rest, b => (b.step action).bind (run rest)

end Broadcaster

end Tendermint
