import Tendermint.Proofs.Socket.Delivery

/-!
# Tendermint.Proofs.Socket.Dispatch

What one frame does. It takes out the entry of its own identifier, and the route of it if it refuses
a subscription; its deliveries are decided by that entry and by the routes of the identifier and of
its key. Nothing else of the tables is read or changed.

* `Router.idOf?`: the identifier of a text; a text without one is noise.
* `Router.settle`, `Router.route_tables`: what becomes of the tables.
* `Router.route_told`: what decides the deliveries of a frame.
* `Router.Tells`, `Router.tells_of_route`: the callers that a frame can deliver to.
-/

namespace Tendermint

namespace Socket

/-- Whether an answer takes the route of its request along. -/
def refuses (outcome : Except RpcError Success) : Pending → Bool
  | .subscribe _ => Router.isFailure outcome
  | _ => false

end Socket

namespace Pending

/-- Whose answer an entry waits for. -/
def caller? : Pending → Option Nat
  | .call caller => some caller
  | .subscribe caller => some caller
  | .ignored _ => none

theorem caller?_eq_some {entry : Pending} {number : Nat} :
    entry.caller? = some number ↔ entry = .call number ∨ entry = .subscribe number := by
  cases entry <;> simp [caller?]

end Pending

namespace Delivery

/-- Whether it settles the answer of a caller. -/
def answers (number : Nat) : Delivery → Bool
  | .answer caller _ => caller = number
  | .hangUp caller => caller = number
  | _ => false

/-- Whether it goes into the feed of a caller. -/
def feeds (number : Nat) : Delivery → Bool
  | .event caller _ => caller = number
  | .endFeed caller => caller = number
  | _ => false

end Delivery

namespace Router

variable {router : Router} {id other : RequestId} {frame : Json} {text : String}

/-! ## Texts -/

/-- The identifier of a text that is a frame with a usable one. -/
def idOf? (text : String) : Option RequestId := (Json.ofText? text).bind frameId?

theorem dispatch_eq (read : Json.ofText? text = some frame) (router : Router) :
    router.dispatch text =
      match frameId? frame with
      | none => (router, [])
      | some id => router.route id frame := by
  cases named : frameId? frame <;> simp only [dispatch, read, named]

/-- A text without an identifier is noise. -/
theorem dispatch_nameless (nameless : idOf? text = none) (router : Router) :
    router.dispatch text = (router, []) := by
  cases read : Json.ofText? text with
  | none => simp only [dispatch, read]
  | some frame =>
    have named : frameId? frame = none := by rwa [idOf?, read] at nameless
    rw [dispatch_eq read, named]

theorem exists_frame (named : idOf? text = some id) :
    ∃ frame, ∀ router : Router, router.dispatch text = router.route id frame := by
  obtain ⟨frame, read, known⟩ := Option.bind_eq_some_iff.1 named
  exact ⟨frame, fun router => by rw [dispatch_eq read, known]⟩

/-! ## Tables -/

/-- The tables without the entry of an identifier, and without its route if it is refused. -/
def settle (id : RequestId) (refused : Bool) (router : Router) : Router :=
  ⟨router.pending.erase id, if refused then router.routes.erase id else router.routes⟩

/-- Whether a frame refuses the subscription that waits under an identifier. -/
def isRefused (id : RequestId) (frame : Json) (router : Router) : Bool :=
  (router.pending.get? id).any (Socket.refuses (Reply.outcomeOf (Reply.ofJson frame)))

/-- A frame takes out what waits for it, and the route of what it refuses. -/
theorem route_tables (id : RequestId) (frame : Json) (router : Router) :
    (router.route id frame).1 = router.settle id (router.isRefused id frame) := by
  rw [route, isRefused, settle]
  cases found : router.pending.get? id with
  | none =>
    rw [Table.erase_of_get?_eq_none found]
    cases router.routes.get? id.key <;> rfl
  | some entry =>
    cases entry with
    | call | ignored => rfl
    | subscribe caller =>
      rw [Option.any_some, Socket.refuses]
      dsimp only [complete]
      split <;> rfl

theorem pending_settle (id other : RequestId) (refused : Bool) (router : Router) :
    (router.settle id refused).pending.get? other =
      if other = id then none else router.pending.get? other := Table.get?_erase ..

theorem routes_settle (away : other ≠ id) (refused : Bool) (router : Router) :
    (router.settle id refused).routes.get? other = router.routes.get? other := by
  rw [settle]
  dsimp only
  split
  · rw [Table.get?_erase, if_neg away]
  · rfl

theorem settle_comm (i j : RequestId) (a b : Bool) (router : Router) :
    (router.settle i a).settle j b = (router.settle j b).settle i a := by
  simp only [settle, Table.erase_comm _ i j, mk.injEq, true_and]
  cases a <;> cases b <;> simp [Table.erase_comm _ i j]

/-! ## Deliveries -/

/-- The deliveries of a frame are decided by its own entry and by the two routes that it may belong
to. -/
theorem route_told {left right : Router} (entry : left.pending.get? id = right.pending.get? id)
    (own : left.routes.get? id = right.routes.get? id)
    (parent : left.routes.get? id.key = right.routes.get? id.key) :
    (left.route id frame).2 = (right.route id frame).2 := by
  rw [route, route, entry, parent]
  cases right.pending.get? id with
  | none => cases right.routes.get? id.key <;> rfl
  | some entry =>
    cases entry with
    | call | ignored => rfl
    | subscribe caller =>
      dsimp only
      rw [complete, complete, own]
      split <;> rfl

/-- The callers that a frame may deliver something to. -/
inductive Tells (router : Router) (id : RequestId) : Delivery → Prop where
  | answer {entry : Pending} {number : Nat} (found : router.pending.get? id = some entry)
      (waits : entry.caller? = some number) (outcome : Except RpcError Success) :
      Tells router id (.answer number outcome)
  | endFeed {route : Route} (found : router.routes.get? id = some route) :
      Tells router id (.endFeed route.caller)
  | event {route : Route} (unknown : router.pending.get? id = none)
      (found : router.routes.get? id.key = some route) (item : Except RpcError Event) :
      Tells router id (.event route.caller item)

theorem tells_of_route : ∀ delivery ∈ (router.route id frame).2, router.Tells id delivery := by
  intro delivery told
  unfold route at told
  cases found : router.pending.get? id with
  | none =>
    rw [found] at told
    cases routed : router.routes.get? id.key with
    | none =>
      rw [routed] at told
      cases told
    | some route =>
      rw [routed] at told
      rw [List.mem_singleton.1 told]
      exact .event found routed _
  | some entry =>
    rw [found] at told
    cases entry with
    | call number =>
      rw [List.mem_singleton.1 told]
      exact .answer found rfl _
    | ignored sent => cases told
    | subscribe number =>
      simp only [complete] at told
      split at told
      · obtain ends | answer := List.mem_append.1 told
        · cases routed : router.routes.get? id with
          | none =>
            rw [routed] at ends
            cases ends
          | some route =>
            rw [routed] at ends
            rw [List.mem_singleton.1 ends]
            exact .endFeed routed
        · rw [List.mem_singleton.1 answer]
          exact .answer found rfl _
      · rw [List.mem_singleton.1 told]
        exact .answer found rfl _

/-- An answer goes to the caller that waits under the identifier of the frame. -/
theorem Tells.answered {delivery : Delivery} {number : Nat} (tells : router.Tells id delivery)
    (settles : delivery.answers number = true) :
    ∃ entry, router.pending.get? id = some entry ∧ entry.caller? = some number := by
  cases tells with
  | answer found waits =>
    obtain rfl := of_decide_eq_true settles
    exact ⟨_, found, waits⟩
  | _ => cases settles

/-- An item goes to a feed of the identifier or of its key. -/
theorem Tells.fed {delivery : Delivery} {number : Nat} (tells : router.Tells id delivery)
    (feeds : delivery.feeds number = true) :
    ∃ key ∈ [id, id.key], ∃ route, router.routes.get? key = some route ∧ route.caller = number := by
  cases tells with
  | answer => cases feeds
  | endFeed found => exact ⟨id, by simp, _, found, of_decide_eq_true feeds⟩
  | event _ found => exact ⟨id.key, by simp, _, found, of_decide_eq_true feeds⟩

end Router

end Tendermint
