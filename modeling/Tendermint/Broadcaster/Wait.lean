import Tendermint.Broadcaster.Step

/-!
# Tendermint.Broadcaster.Wait

Waiting for a value: a listener that puts the values of its stream to a test, one after the other,
resolves at the first one that is accepted, or without a value when the stream ends. The test may
remember what it has seen.

* `Wait.next`: what a wait does when its turn comes.
* `Vigil.step`: what can happen to a broadcaster and to a wait at it.
-/

namespace Tendermint

/-- How far a wait has come, from its subscription on. -/
inductive Wait (α σ : Type) where
  /-- No value was accepted so far; the memory of the test. -/
  | following (listener : Nat) (memory : σ)
  /-- A value was accepted, and the stream is still held. -/
  | leaving (listener : Nat) (found : α)
  /-- It has resolved, with the value that was accepted if there was one. -/
  | settled (found : Option α)
  deriving DecidableEq, Repr

namespace Wait

variable {α ε σ : Type}

/-- The stream that a wait holds. -/
def listener? : Wait α σ → Option Nat
  | .following listener _ => some listener
  | .leaving listener _ => some listener
  | .settled _ => none

/-- What a test makes of the next value. -/
def examine (test : σ → α → Bool × σ) (listener : Nat) (memory : σ) (a : α) : Wait α σ :=
  match test memory a with
  | (true, _) => .leaving listener a
  | (false, memory) => .following listener memory

/-- What a wait does when its turn comes, and how far it has come then. There is nothing to do as
long as its stream is open and nothing is there to read, and when the wait has resolved. -/
def next (test : σ → α → Bool × σ) (b : Broadcaster α ε) :
    Wait α σ → Option (Broadcaster.Action α ε × Wait α σ)
  | .following listener memory =>
    match (b.listener? listener).map Listener.poll with
    | some (.value a) => some (.readNext listener, examine test listener memory a)
    | some .ended => some (.leave listener, .settled none)
    | _ => none
  | .leaving listener a => some (.leave listener, .settled (some a))
  | .settled _ => none

/-- Only the wait reads its stream and drops it. -/
def owns (wait : Wait α σ) : Broadcaster.Action α ε → Bool
  | .readNext listener => wait.listener? == some listener
  | .leave listener => wait.listener? == some listener
  | _ => false

end Wait

/-- A broadcaster and a wait at it. -/
structure Vigil (α ε σ : Type) where
  state : Broadcaster α ε
  wait : Wait α σ
  deriving DecidableEq, Repr

namespace Vigil

variable {α ε σ : Type}

/-- What can happen. -/
inductive Move (α ε : Type) where
  /-- The turn of the wait. -/
  | own
  /-- Anything else. -/
  | other (action : Broadcaster.Action α ε)
  deriving DecidableEq, Repr

/-- What comes of a move, if it is possible. -/
def step (test : σ → α → Bool × σ) (move : Move α ε) (vigil : Vigil α ε σ) :
    Option (Vigil α ε σ) :=
  match move with
  | .own =>
    match vigil.wait.next test vigil.state with
    | none => none
    | some (action, wait) => (vigil.state.step action).map fun state => ⟨state, wait⟩
  | .other action =>
    if vigil.wait.owns action then none
    else (vigil.state.step action).map fun state => { vigil with state }

end Vigil

end Tendermint
