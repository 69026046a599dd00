import Tendermint.Proofs.Socket.Dispatch

/-!
# Tendermint.Proofs.Socket.Effect

What the steps of a connection are, said once and without their inner workings.

* `Happens`: what a step is, action by action.
* `callerStep_eq`: what an action of a caller does to the queue and to the callers.
* `handle_ask`, `handle_unsubscribe`: what the task makes of a command.
* `incoming?`, `receive_eq`: the frame of a moment, and what becomes of it.
-/

namespace Tendermint

namespace Caller

/-- What a caller asks for, and whether it listens. This never changes. -/
def asked (caller : Caller) : Request × Bool := (caller.request, caller.listens)

theorem reached_asked (ds : List Delivery) (c : Caller) : (c.reached ds).asked = c.asked := by
  rw [reached_eq]
  rfl

end Caller

namespace Socket

/-- What the callers ask for. -/
def asked (s : Socket) : List (Request × Bool) := s.callers.map Caller.asked

/-- The command of a caller with a request. -/
def commandFor (number : Nat) (ask : Request × Bool) : SocketCommand :=
  if ask.2 then .listen ask.1 number else .call ask.1 number

/-- The entry of a caller whose request was sent. -/
def entryFor (number : Nat) (ask : Request × Bool) : Pending :=
  if ask.2 then .subscribe number else .call number

theorem entryFor_eq_subscribe {n k : Nat} {ask : Request × Bool} :
    entryFor n ask = .subscribe k ↔ n = k ∧ ask.2 = true := by
  unfold entryFor
  split <;> simp_all

theorem caller?_entryFor (number : Nat) (ask : Request × Bool) :
    (entryFor number ask).caller? = some number := by
  unfold entryFor
  split <;> rfl

/-- Whose answer a command waits for. -/
def asker? : SocketCommand → Option Nat
  | .call _ caller => some caller
  | .listen _ caller => some caller
  | _ => none

@[simp] theorem asker?_commandFor (n : Nat) (ask : Request × Bool) :
    asker? (commandFor n ask) = some n := by
  unfold commandFor
  split <;> rfl

theorem commandFor_injective {n : Nat} {a b : Request × Bool}
    (h : commandFor n a = commandFor n b) : a = b := by
  obtain ⟨_, listens⟩ := a
  obtain ⟨_, listens'⟩ := b
  cases listens <;> cases listens' <;> simp_all [commandFor]

theorem getElem?_asked {s : Socket} {n : Nat} {c : Caller} (h : s.callers[n]? = some c) :
    s.asked[n]? = some c.asked := by
  rw [asked, List.getElem?_map, h, Option.map_some]

theorem exists_caller {s : Socket} {n : Nat} {ask : Request × Bool} (h : s.asked[n]? = some ask) :
    ∃ c, s.callers[n]? = some c ∧ c.asked = ask := by
  rw [asked, List.getElem?_map] at h
  exact Option.map_eq_some_iff.1 h

theorem asked_modifyCaller (s : Socket) (n : Nat) {f : Caller → Caller}
    (h : ∀ c, (f c).asked = c.asked) : (s.modifyCaller n f).asked = s.asked := by
  apply List.ext_getElem?
  intro k
  simp only [asked, List.getElem?_map, getElem?_modifyCaller]
  split
  · cases s.callers[k]? <;> simp [h]
  · rfl

@[simp] theorem asked_deliver (ds : List Delivery) (s : Socket) :
    (s.deliver ds).asked = s.asked := by
  apply List.ext_getElem?
  intro k
  simp only [asked, List.getElem?_map, getElem?_deliver]
  cases s.callers[k]? <;> simp [Caller.reached_asked]

/-! ## Callers -/

/-- What a step is, action by action. -/
inductive Happens (s : Socket) : Action → Socket → Prop where
  | comes {listens : Bool} {request : Request} :
      Happens s (.begin listens request) (s.beginWith listens request)
  | comesNext {listens : Bool} {method : String} {params : Params} :
      Happens s (.beginNext listens method params)
        ({ s with ids := s.ids.take.2 }.beginWith listens ⟨s.ids.take.1, method, params⟩)
  | marked : Happens s .markClosed { s with connected := false }
  | asked : Happens s .askDisconnect (s.enqueue .disconnect)
  | handled {fault : Option NetworkFault} {command : SocketCommand} {rest : List SocketCommand}
      (running : s.phase = .running) (queue : s.queue = command :: rest) :
      Happens s (.handleNext fault) ({ s with queue := rest }.handle fault command)
  | received {frame : SocketFrame} (running : s.phase = .running) :
      Happens s (.receive frame) (s.receive frame)
  | lost (running : s.phase = .running) : Happens s .lose s.leave
  | finished (leaving : s.phase = .leaving) : Happens s .finish s.finish
  | passed {duration : Duration} :
      Happens s (.pass duration) { s with now := ⟨s.now.nanoseconds + duration.nanoseconds⟩ }
  | skipped : Happens s .skipId { s with ids := s.ids.take.2 }
  | acts {action : Action} {n : Nat} {c : Caller} {t : Socket} (actor : action.caller? = some n)
      (found : s.callers[n]? = some c) (acts : s.callerStep n c action = some t) :
      Happens s action t

theorem Happens.of_step {action : Action} {s t : Socket} (h : s.step action = some t) :
    Happens s action t := by
  unfold step at h
  cases actor : action.caller? with
  | none =>
    rw [actor] at h
    cases action with
    | begin | beginNext | markClosed | askDisconnect | pass | skipId =>
      cases Option.some.inj h
      constructor
    | handleNext | receive | lose | finish =>
      simp only [taskStep] at h
      split at h
      · cases Option.some.inj h
        constructor <;> assumption
      · cases h
    | _ => cases actor
  | some n =>
    rw [actor] at h
    cases found : s.callers[n]? with
    | none => simp [found] at h
    | some c => exact .acts actor found (by simpa [found] using h)

theorem enqueue_eq (command : SocketCommand) (s : Socket) :
    s.enqueue command =
      { s with queue := s.queue ++ if s.phase = .finished then [] else [command] } := by
  unfold enqueue
  cases h : s.phase with
  | running | leaving => simp
  | finished => simp [← h]

theorem submitFrom_eq (n : Nat) (c : Caller) (s : Socket) :
    s.submitFrom n c =
      if s.phase = .finished then s.modifyCaller n (Caller.resolve (.error .notConnected))
      else
        { s with queue := s.queue ++ [commandFor n c.asked] }.modifyCaller n fun d =>
          { d with stage := .waiting s.now } := by
  unfold submitFrom
  cases h : s.phase with
  | running | leaving =>
    simp only [enqueue_eq, h, if_neg (by simp : ¬ SocketPhase.running = .finished),
      if_neg (by simp : ¬ SocketPhase.leaving = .finished)]
    rfl
  | finished => rfl

/-- An action of a caller changes this caller and puts commands of its own into the queue. -/
theorem callerStep_eq {s t : Socket} {n : Nat} {c : Caller} {action : Action}
    (h : s.callerStep n c action = some t) :
    ∃ commands f, t = { s with queue := s.queue ++ commands }.modifyCaller n f ∧
      (∀ command ∈ commands, command = commandFor n c.asked ∨
        command = .unsubscribe c.request.id ∨ command = .forget c.request.id) ∧
      ∀ d, (f d).asked = d.asked := by
  have same : s = { s with queue := s.queue ++ [] } := by rw [List.append_nil]
  cases action with
  | submit =>
    simp only [callerStep] at h
    split at h
    · cases Option.some.inj h
      rw [submitFrom_eq]
      split
      · exact ⟨[], Caller.resolve (.error .notConnected), by rw [← same], by simp, fun _ => rfl⟩
      · exact ⟨_, _, rfl, by simp, fun _ => rfl⟩
    · cases h
  | resume =>
    simp only [callerStep] at h
    split at h
    · rename_i outcome _ _
      cases Option.some.inj h
      exact ⟨[], Caller.resolve outcome, by rw [← same], by simp, fun _ => rfl⟩
    · cases h
  | expire =>
    simp only [callerStep] at h
    split at h
    · obtain ⟨-, h⟩ := Option.ite_none_right_eq_some.1 h
      cases Option.some.inj h
      rw [expireFrom, enqueue_eq]
      refine ⟨_, _, rfl, ?_, fun _ => rfl⟩
      split <;> simp
    · cases h
  | abandon =>
    simp only [callerStep] at h
    split at h
    · cases Option.some.inj h
      exact ⟨[], fun d => { d with stage := .gone }, by rw [← same], by simp, fun _ => rfl⟩
    · cases h
  | read =>
    obtain ⟨-, h⟩ := Option.ite_none_right_eq_some.1 h
    cases Option.some.inj h
    exact ⟨[], fun d => { d with feed := { d.feed with unread := d.feed.unread.tail } },
      by rw [← same], by simp, fun _ => rfl⟩
  | dropStream =>
    obtain ⟨-, h⟩ := Option.ite_none_right_eq_some.1 h
    cases Option.some.inj h
    rw [enqueue_eq]
    refine ⟨_, fun d => { d with holds := false }, rfl, ?_, fun _ => rfl⟩
    split <;> simp
  | _ => cases h

/-! ## Commands -/

/-- The tables with a request that was sent. -/
def noted (number : Nat) (ask : Request × Bool) (router : Router) : Router where
  pending := router.pending.insert ask.1.id (entryFor number ask)
  routes :=
    if ask.2 then router.routes.insert ask.1.id ⟨ask.1.query?, number⟩ else router.routes

theorem isOutstanding_eq_false {router : Router} {id : RequestId} :
    router.isOutstanding id = false ↔
      router.pending.get? id = none ∧ router.routes.get? id = none := by
  simp [Router.isOutstanding, Table.contains]

/-- A request whose identifier is free is sent, or the task leaves. -/
theorem handle_ask {s : Socket} {n : Nat} {ask : Request × Bool} (fault : Option NetworkFault)
    (free : s.router.isOutstanding ask.1.id = false) :
    s.handle fault (commandFor n ask) =
      match fault with
      | some fault => s.failToSend fault n
      | none => { s with router := noted n ask s.router, written := s.written ++ [ask.1] } := by
  obtain ⟨noEntry, noRoute⟩ := isOutstanding_eq_false.1 free
  obtain ⟨request, listens⟩ := ask
  cases listens <;> cases fault <;>
    simp [commandFor, handle, free, noEntry, noRoute, withRouter, write, deliver, noted, entryFor,
      Router.admitCall, Router.admitSubscription, Router.dropPending, Router.dropRoute]

/-- An `unsubscribe` takes the route away. If that had a query, an `unsubscribe` request, which
nobody waits for, is sent under a fresh identifier, or the task leaves. -/
theorem handle_unsubscribe {s t : Socket} {fault : Option NetworkFault} {id : RequestId}
    (fresh : ∀ query, (s.router.takeRoute id).1 = some query →
      s.router.pending.get? s.ids.take.1 = none)
    (h : s.handle fault (.unsubscribe id) = t) :
    t.callers = (s.deliver (Router.dropRoute (s.router.routes.get? id))).callers ∧
      t.queue = s.queue ∧ t.router.routes = s.router.routes.erase id ∧
      (t.phase = s.phase ∨ t.phase = .leaving) ∧
      (t.router.pending = s.router.pending ∧ t.written = s.written ∨
        ∃ query, (s.router.takeRoute id).1 = some query ∧
          t.router.pending =
            (s.router.pending.keep (Router.isFresh s.now s.timeout)).insert s.ids.take.1
              (.ignored s.now) ∧
          t.written = s.written ++ [unsubscription s.ids.take.1 query]) := by
  let parted := { s with router := { s.router with routes := s.router.routes.erase id } }
  let told := parted.deliver (Router.dropRoute (s.router.routes.get? id))
  have callers : told.callers = (s.deliver (Router.dropRoute (s.router.routes.get? id))).callers :=
    callers_deliver _ rfl
  have rest : told = { parted with callers := told.callers } := deliver_eq _ _
  have change : s.withRouter (s.router.takeRoute id).2 = told := rfl
  simp only [handle, change] at h
  cases hq : (s.router.takeRoute id).1 with
  | none =>
    rw [hq] at h
    subst h
    exact ⟨callers, by rw [rest], by rw [rest], .inl (by rw [rest]), .inl ⟨by rw [rest], by rw [rest]⟩⟩
  | some query =>
    rw [hq] at h
    simp only at h
    cases fault with
    | some fault =>
      subst h
      refine ⟨callers, ?_, ?_, .inr rfl, .inl ⟨?_, ?_⟩⟩ <;>
        simp only [takeId, leave, Option.isSome_some, if_true] <;> rw [rest]
    | none =>
      have kept :
          (s.router.pending.keep (Router.isFresh s.now s.timeout)).get? s.ids.take.1 = none := by
        rw [Table.get?_keep, fresh query hq, Option.filter_none]
      have sent : t =
          { told with
            router := ⟨(s.router.pending.keep (Router.isFresh s.now s.timeout)).insert s.ids.take.1
              (.ignored s.now), s.router.routes.erase id⟩
            ids := s.ids.take.2
            written := s.written ++ [unsubscription s.ids.take.1 query] } := by
        rw [← h, rest]
        simp [takeId, write, withRouter, Router.admitIgnored, Router.expireIgnored, parted, kept,
          Router.dropPending, deliver]
      subst sent
      exact ⟨callers, by rw [rest], rfl, .inl (by rw [rest]), .inr ⟨query, rfl, rfl, rfl⟩⟩

/-- No command changes what the callers ask for. -/
theorem asked_handle (fault : Option NetworkFault) (command : SocketCommand) (s : Socket) :
    (s.handle fault command).asked = s.asked := by
  cases command with
  | call request n | listen request n =>
    simp only [handle]
    split
    · exact asked_deliver _ s
    · split
      · exact asked_deliver _ s
      · exact asked_deliver _ _
  | unsubscribe id =>
    have parted : (s.withRouter (s.router.takeRoute id).2).asked = s.asked := asked_deliver _ _
    simp only [handle]
    split
    · exact parted
    · split
      · exact parted
      · exact (asked_deliver _ _).trans parted
  | forget id => exact asked_deliver _ _
  | disconnect => rfl

@[simp] theorem deliver_phase (ds : List Delivery) (s : Socket) : (s.deliver ds).phase = s.phase := by
  rw [deliver_eq]

/-- The task goes on or leaves. -/
theorem handle_phase (fault : Option NetworkFault) (command : SocketCommand) (s : Socket) :
    (s.handle fault command).phase = s.phase ∨ (s.handle fault command).phase = .leaving := by
  cases command with
  | call request n | listen request n =>
    simp only [handle]
    split
    · exact .inl (deliver_phase _ s)
    · split
      · exact .inr rfl
      · exact .inl (deliver_phase _ _)
  | unsubscribe id =>
    have parted : (s.withRouter (s.router.takeRoute id).2).phase = s.phase := deliver_phase _ _
    simp only [handle]
    split
    · exact .inl parted
    · split
      · exact .inr rfl
      · exact .inl ((deliver_phase _ _).trans parted)
  | forget id => exact .inl (deliver_phase _ _)
  | disconnect => exact .inr rfl

/-! ## Frames -/

/-- The frame that comes in at a moment, if it has a usable identifier. -/
def incoming? (m : Moment Socket Action) : Option (RequestId × Json) :=
  match m.action with
  | .receive frame =>
    match frame.text?.bind Json.ofText? with
    | some json => (Router.frameId? json).map fun id => (id, json)
    | none => none
  | _ => none

theorem frameId?_of_incoming {m : Moment Socket Action} {name : RequestId} {json : Json}
    (h : incoming? m = some (name, json)) : Router.frameId? json = some name := by
  unfold incoming? at h
  split at h
  · split at h
    · obtain ⟨id, hid, heq⟩ := Option.map_eq_some_iff.1 h
      cases heq
      exact hid
    · cases h
  · cases h

theorem receive_eq (frame : SocketFrame) (s : Socket) :
    s.receive frame =
      match incoming? ⟨s, .receive frame⟩ with
      | some (name, json) => s.withRouter (s.router.route name json)
      | none => s := by
  have nothing : s.withRouter (s.router, []) = s := rfl
  simp only [receive, incoming?, Router.dispatch]
  cases frame.text? with
  | none => rfl
  | some text =>
    simp only [Option.bind_some]
    cases Json.ofText? text with
    | none => exact nothing
    | some json =>
      simp only
      cases Router.frameId? json with
      | none => exact nothing
      | some name => rfl

/-! ## The end -/

/-- Once the task has left nothing is written any more, and it never comes back. -/
theorem left_step {action : Action} {s t : Socket} (hs : s.step action = some t)
    (left : s.phase ≠ .running) : t.phase ≠ .running ∧ t.written = s.written := by
  cases Happens.of_step hs with
  | handled running | received running | lost running =>
    -- Only a task that runs takes anything.
    exact absurd running left
  | finished =>
    rw [finish_eq, deliver_eq]
    exact ⟨by simp, rfl⟩
  | asked =>
    rw [enqueue_eq]
    exact ⟨left, rfl⟩
  | acts _ _ acts =>
    obtain ⟨commands, f, rfl, -, -⟩ := callerStep_eq acts
    exact ⟨left, rfl⟩
  | _ => exact ⟨left, rfl⟩

theorem left_run {past : List (Moment Socket Action)} {s t : Socket} (run : History step s past t)
    (left : s.phase ≠ .running) : t.phase ≠ .running ∧ t.written = s.written := by
  induction run with
  | start => exact ⟨left, rfl⟩
  | next _ hs ih =>
    obtain ⟨still, same⟩ := ih
    obtain ⟨on, written⟩ := left_step hs still
    exact ⟨on, written.trans same⟩

/-- After the end nobody finds the connection open. -/
def Shut (s : Socket) : Prop := s.phase = .finished → s.connected = false

theorem shut_step {action : Action} {s t : Socket} (shut : s.Shut) (hs : s.step action = some t) :
    t.Shut := by
  cases Happens.of_step hs with
  | @handled fault command rest running _ =>
    intro atEnd
    obtain same | left := handle_phase fault command { s with queue := rest }
    · rw [same] at atEnd
      cases running.symm.trans atEnd
    · cases left.symm.trans atEnd
  | @received frame running =>
    intro atEnd
    have same : (s.receive frame).phase = s.phase := by
      rw [receive_eq]
      split
      · exact deliver_phase _ _
      · rfl
    cases running.symm.trans (same.symm.trans atEnd)
  | lost =>
    intro atEnd
    cases atEnd
  | finished =>
    rw [finish_eq, deliver_eq]
    exact fun _ => rfl
  | asked =>
    rw [enqueue_eq]
    exact shut
  | marked => exact fun _ => rfl
  | acts _ _ acts =>
    obtain ⟨commands, f, rfl, -, -⟩ := callerStep_eq acts
    exact shut
  | _ => exact shut

end Socket

end Tendermint
