import Tendermint.Proofs.Socket.Life
import Tendermint.Proofs.Socket.Order

/-!
# Tendermint.Proofs.Socket.Lives

Every step of a connection is, to each of its callers, one of the steps of a life. So what holds of
every life holds of every caller over every run.

* `Ordered.hangUps`, `Ordered.endings`: of what is dropped, a caller is reached by what is its own.
* `GoesOn`: a step of a connection as a step of one caller's life.
* `goesOn_step`: every step goes on with every life.
* `lived_run`: every caller has lived the run that led to it.
-/

namespace Tendermint

namespace Socket

variable {past : List (Moment Socket Action)} {s t : Socket} {k : Nat} {c : Caller}

section Own

variable (h : Ordered past s) (hc : s.callers[k]? = some c)
include h hc

theorem Ordered.own_entry {entry : Pending}
    (found : s.router.pending.get? c.request.id = some entry) : entry = entryFor k c.asked := by
  obtain ⟨n, ask, hask, hid, rfl⟩ | ⟨-, others⟩ := h.pending _ _ found
  · have hk := getElem?_asked hc
    have same : n = k := h.same hask hk hid
    subst same
    rw [hask] at hk
    rw [Option.some.inj hk]
  · exact absurd rfl (others c.asked (List.mem_of_getElem? (getElem?_asked hc)))

theorem Ordered.own_route {route : Route}
    (found : s.router.routes.get? c.request.id = some route) :
    route.caller = k ∧ c.listens = true := by
  obtain ⟨ask, hask, hid, listens⟩ := h.routes _ _ found
  have hk := getElem?_asked hc
  have same : route.caller = k := h.same hask hk hid
  rw [same, hk] at hask
  cases hask
  exact ⟨same, listens⟩

theorem Ordered.other_entry {id : RequestId} {n : Nat} {ask : Request × Bool}
    (found : s.router.pending.get? id = some (entryFor n ask)) (other : id ≠ c.request.id) :
    n ≠ k := by
  rintro rfl
  obtain ⟨i, other_ask, hask, hid, same⟩ | ⟨⟨sent, same⟩, -⟩ := h.pending _ _ found
  · have own : n = i := by
      simp only [entryFor] at same
      split at same <;> split at same <;> simp_all
    subst own
    rw [getElem?_asked hc] at hask
    cases hask
    exact other hid.symm
  · simp only [entryFor] at same
    split at same <;> cases same

theorem Ordered.other_route {id : RequestId} {route : Route}
    (found : s.router.routes.get? id = some route) (other : id ≠ c.request.id) :
    route.caller ≠ k := by
  rintro rfl
  obtain ⟨ask, hask, hid, -⟩ := h.routes _ _ found
  rw [getElem?_asked hc] at hask
  cases hask
  exact other hid.symm

/-- An entry is that of a caller or of nobody. -/
theorem Ordered.entry_cases {id : RequestId} {entry : Pending}
    (found : s.router.pending.get? id = some entry) :
    (id = c.request.id ∧ entry = entryFor k c.asked) ∨
      id ≠ c.request.id ∧ ((∃ sent, entry = .ignored sent) ∨
        ∃ n ask, entry = entryFor n ask ∧ n ≠ k) := by
  by_cases own : id = c.request.id
  · exact .inl ⟨own, h.own_entry hc (own ▸ found)⟩
  · obtain ⟨n, ask, hask, hid, rfl⟩ | ⟨ignored, -⟩ := h.pending _ _ found
    · exact .inr ⟨own, .inr ⟨n, ask, rfl, h.other_entry hc found own⟩⟩
    · exact .inr ⟨own, .inl ignored⟩

/-- Of what is dropped with an entry, a caller is reached by what is its own. -/
theorem Ordered.hangUps (id : RequestId) :
    (Router.dropPending (s.router.pending.get? id)).filter (fun d => d.caller = k) =
      if id = c.request.id ∧ s.router.pending.contains id = true then [.hangUp k] else [] := by
  cases found : s.router.pending.get? id with
  | none => simp [Router.dropPending, Table.contains, found]
  | some entry =>
    obtain ⟨own, rfl⟩ | ⟨other, ⟨sent, rfl⟩ | ⟨n, ask, rfl, away⟩⟩ := h.entry_cases hc found
    · rw [if_pos ⟨own, by simp [Table.contains, found]⟩]
      simp only [entryFor]
      split <;> simp [Router.dropPending, Delivery.caller]
    · simp [Router.dropPending, other]
    · simp only [entryFor]
      split <;> simp [Router.dropPending, Delivery.caller, other, away]

theorem Ordered.endings (id : RequestId) :
    (Router.dropRoute (s.router.routes.get? id)).filter (fun d => d.caller = k) =
      if id = c.request.id ∧ s.router.routes.contains id = true then [.endFeed k] else [] := by
  cases found : s.router.routes.get? id with
  | none => simp [Router.dropRoute, Table.contains, found]
  | some route =>
    by_cases own : id = c.request.id
    · obtain ⟨mine, -⟩ := h.own_route hc (own ▸ found)
      rw [if_pos ⟨own, by simp [Table.contains, found]⟩]
      simp [Router.dropRoute, Delivery.caller, mine]
    · have away := h.other_route hc found own
      simp [Router.dropRoute, Delivery.caller, away, own]

/-- The end of a feed reaches its listener and nobody else. -/
theorem Ordered.released (id : RequestId) :
    (s.deliver (Router.dropRoute (s.router.routes.get? id))).callers[k]? =
      some (c.detachedIf (id = c.request.id ∧ s.router.routes.contains id = true)) := by
  rw [getElem?_deliver, hc, h.endings hc id, Option.map_some]
  by_cases mine : id = c.request.id ∧ s.router.routes.contains id = true
  · rw [if_pos mine, decide_eq_true mine]
    rfl
  · rw [if_neg mine, decide_eq_false mine]
    rfl

end Own

/-! ## Steps -/

/-- A moment is a step of a caller's life. -/
def GoesOn (m : Moment Socket Action) (k : Nat) (c : Caller) (t : Socket) : Prop :=
  ∃ c', t.callers[k]? = some c' ∧
    (m.before.life k c).Step m k (share k c.request.id m) (t.life k c')

theorem GoesOn.of_life {m : Moment Socket Action} (c' : Caller) {l : Life} {brought : Share}
    (callers : t.callers[k]? = some c') (step : (m.before.life k c).Step m k brought l)
    (shared : share k c.request.id m = brought) (life : t.life k c' = l) : GoesOn m k c t :=
  ⟨c', callers, by rw [shared, life]; exact step⟩

/-- What leaves a caller alone. -/
theorem GoesOn.of_still {action : Action} (callers : t.callers[k]? = some c)
    (quiet : share k c.request.id ⟨s, action⟩ = .none)
    (queue : t.queue.filterMap (errand? k c.request.id) =
      s.queue.filterMap (errand? k c.request.id))
    (pending : t.router.pending.contains c.request.id = s.router.pending.contains c.request.id)
    (routes : t.router.routes.contains c.request.id = s.router.routes.contains c.request.id)
    (written : (t.written.any fun r => r.id = c.request.id) =
      s.written.any fun r => r.id = c.request.id)
    (phase : t.phase = s.phase ∨ s.phase = .running ∧ t.phase = .leaving) :
    GoesOn ⟨s, action⟩ k c t := by
  refine .of_life _ callers (.still phase) quiet ?_
  simp only [life, queue, pending, routes, written]

theorem share_eq_none {id : RequestId} {action : Action} (receives : ∀ frame, action ≠ .receive frame)
    (finishes : action ≠ .finish) (reads : action ≠ .read k) :
    share k id ⟨s, action⟩ = .none := by
  cases action with
  | receive frame => exact absurd rfl (receives frame)
  | finish => exact absurd rfl finishes
  | read n =>
    have away : n ≠ k := fun h => reads (congrArg Action.read h)
    simp [share, framesFor, eventsFor, closingFor, readBy, incoming?, Share.none, away]
  | _ => rfl

@[simp] theorem errand?_commandFor (n k : Nat) (id : RequestId) (ask : Request × Bool) :
    errand? k id (commandFor n ask) = if n = k then some .ask else none := by
  unfold commandFor
  split <;> rfl

/-- What another caller does. -/
theorem goesOn_other (h : Ordered past s) (hc : s.callers[k]? = some c) {n : Nat} {d : Caller}
    {action : Action} (hd : s.callers[n]? = some d) (away : n ≠ k) (actor : action.caller? = some n)
    (hs : s.callerStep n d action = some t) : GoesOn ⟨s, action⟩ k c t := by
  obtain ⟨commands, f, rfl, own, -⟩ := callerStep_eq hs
  have names : d.request.id ≠ c.request.id := fun same =>
    away (h.same (getElem?_asked hd) (getElem?_asked hc) same)
  refine .of_still ?_ ?_ ?_ rfl rfl rfl (.inl rfl)
  · rw [getElem?_modifyCaller, if_neg away]
    exact hc
  · refine share_eq_none ?_ ?_ ?_ <;> intros <;> rintro rfl <;> simp [Action.caller?] at actor
    exact away actor.symm
  · have none_own : commands.filterMap (errand? k c.request.id) = [] := by
      rw [List.filterMap_eq_nil_iff]
      intro command hcommand
      obtain rfl | rfl | rfl := own command hcommand
      · rw [errand?_commandFor, if_neg away]
      · exact if_neg names
      · exact if_neg names
    rw [modifyCaller, List.filterMap_append, none_own, List.append_nil]

theorem enqueue_life {command : SocketCommand} {errand : Errand}
    (own : errand? k c.request.id command = some errand) (d : Caller)
    (request : d.request = c.request) :
    (s.enqueue command).life k d =
      { s.life k c with caller := d, errands := (s.life k c).sending errand } := by
  rw [enqueue_eq]
  simp only [life, Life.sending, request]
  by_cases atEnd : s.phase = .finished
  · simp [atEnd]
  · simp [atEnd, own]

/-- What the caller itself does. -/
theorem goesOn_own (hc : s.callers[k]? = some c) {action : Action} (actor : action.caller? = some k)
    (hs : s.callerStep k c action = some t) : GoesOn ⟨s, action⟩ k c t := by
  have modified : ∀ (u : Socket) (f : Caller → Caller), u.callers = s.callers →
      (u.modifyCaller k f).callers[k]? = some (f c) := by
    intro u f callers
    rw [getElem?_modifyCaller, if_pos rfl, callers, hc, Option.map_some]
  cases action with
  | submit n =>
    cases Option.some.inj actor
    simp only [callerStep] at hs
    split at hs
    · rename_i stage
      cases Option.some.inj hs
      rw [submitFrom_eq]
      split
      · rename_i atEnd
        exact .of_life _ (modified s _ rfl) (.refused stage atEnd) rfl rfl
      · rename_i atEnd
        refine .of_life _ (modified _ _ rfl) (.submitted stage atEnd) rfl ?_
        simp [life, modifyCaller]
    · cases hs
  | resume n =>
    cases Option.some.inj actor
    simp only [callerStep] at hs
    split at hs
    · rename_i since outcome stage found
      cases Option.some.inj hs
      have waits : c.awaits = true := by rw [Caller.awaits, stage]
      exact .of_life _ (modified s _ rfl) (.resumed waits found) rfl rfl
    · cases hs
  | expire n =>
    cases Option.some.inj actor
    simp only [callerStep] at hs
    split at hs
    · rename_i since stage
      obtain ⟨due, hs⟩ := Option.ite_none_right_eq_some.1 hs
      cases Option.some.inj hs
      refine .of_life _ (modified _ _ (by rw [enqueue_eq])) (.expired rfl hc stage due) rfl ?_
      have own : errand? k c.request.id (.forget c.request.id) = some .forget := if_pos rfl
      exact enqueue_life own _ rfl
    · cases hs
  | abandon n =>
    cases Option.some.inj actor
    simp only [callerStep] at hs
    split at hs
    · rename_i since stage
      cases Option.some.inj hs
      have waits : c.awaits = true := by rw [Caller.awaits, stage]
      exact .of_life _ (modified s _ rfl) (.abandoned waits) rfl rfl
    · cases hs
  | read n =>
    cases Option.some.inj actor
    obtain ⟨holds, hs⟩ := Option.ite_none_right_eq_some.1 hs
    cases Option.some.inj hs
    refine .of_life _ (modified s _ rfl) (.read holds) ?_ rfl
    simp [share, framesFor, eventsFor, closingFor, readBy, incoming?, hc, life]
  | dropStream n =>
    cases Option.some.inj actor
    obtain ⟨holds, hs⟩ := Option.ite_none_right_eq_some.1 hs
    cases Option.some.inj hs
    refine .of_life _ (modified _ _ (by rw [enqueue_eq])) (.dropped holds) rfl ?_
    have own : errand? k c.request.id (.unsubscribe c.request.id) = some .unsubscribe := if_pos rfl
    exact enqueue_life own _ rfl
  | _ => cases hs

/-! ## Commands -/

/-- Deliveries change nothing of a life but the caller. -/
theorem deliver_life (ds : List Delivery) (d : Caller) : (s.deliver ds).life k d = s.life k d := by
  rw [deliver_eq]
  rfl

@[simp] theorem detachedIf_request (condition : Bool) (d : Caller) :
    (d.detachedIf condition).request = d.request := by
  cases condition <;> rfl

theorem leave_life (d : Caller) : s.leave.life k d = { s.life k d with phase := .leaving } := rfl

theorem life_of_request {d : Caller} (request : d.request = c.request) :
    s.life k d = { s.life k c with caller := d } := by
  simp only [life, request]

section Handle

variable (h : Ordered past s) (hc : s.callers[k]? = some c) (fault : Option NetworkFault)
  {rest : List SocketCommand} (running : s.phase = .running)
include h hc running

/-- The task takes a request. -/
theorem goesOn_ask {n : Nat} {ask : Request × Bool} (queue : s.queue = commandFor n ask :: rest)
    (hask : s.asked[n]? = some ask) (free : s.router.isOutstanding ask.1.id = false) :
    GoesOn ⟨s, .handleNext fault⟩ k c ({ s with queue := rest }.handle fault (commandFor n ask)) := by
  rw [handle_ask (s := { s with queue := rest }) fault free]
  have errands : (s.life k c).errands =
      (if n = k then [.ask] else []) ++ rest.filterMap (errand? k c.request.id) := by
    simp only [life, queue, List.filterMap_cons, errand?_commandFor]
    split <;> simp_all
  by_cases own : n = k
  · subst own
    rw [getElem?_asked hc] at hask
    cases hask
    rw [if_pos rfl] at errands
    cases fault with
    | some fault =>
      refine .of_life (c.answered (.filled (.error (.webSocket fault)))).detached ?_
        (.unsent running errands rfl (by simp [queue]; rfl)) rfl ?_
      · simp only [failToSend, refuse, leave]
        rw [getElem?_deliver, hc]
        simp [Delivery.caller, Delivery.reach]
      · simp only [failToSend, refuse, leave_life, deliver_life]
        rw [life_of_request (c := c) (by simp)]
        rfl
    | none =>
      refine .of_life _ hc (.sent running errands) rfl ?_
      obtain ⟨-, noRoute⟩ := isOutstanding_eq_false.1 free
      cases listens : c.listens <;>
        simp_all [life, noted, Table.contains, Table.get?_insert, Caller.asked]
  · have names : c.request.id ≠ ask.1.id := fun same =>
      own (h.same (getElem?_asked hc) hask same).symm
    rw [if_neg own, List.nil_append] at errands
    cases fault with
    | some fault =>
      refine .of_still ?_ rfl ?_ ?_ ?_ ?_ (.inr ⟨running, rfl⟩) <;>
        simp only [failToSend, refuse, leave]
      · rw [getElem?_deliver, hc]
        simp [Delivery.caller, own]
      all_goals rw [deliver_eq]
      exact errands.symm
    | none =>
      refine .of_still hc rfl errands.symm ?_ ?_ ?_ (.inl rfl)
      · simp [noted, Table.contains_insert, names]
      · simp only [noted]
        split
        · simp [Table.contains_insert, names]
        · rfl
      · simp [Ne.symm names]

/-- The task takes an `unsubscribe`. -/
theorem goesOn_unsubscribe {id : RequestId} (queue : s.queue = .unsubscribe id :: rest)
    (new : ∀ query, (s.router.takeRoute id).1 = some query → ¬ s.Knows s.ids.take.1) :
    GoesOn ⟨s, .handleNext fault⟩ k c ({ s with queue := rest }.handle fault (.unsubscribe id)) := by
  have unused : ∀ query, (s.router.takeRoute id).1 = some query →
      s.router.pending.get? s.ids.take.1 = none := by
    intro query hq
    by_contra found
    exact new query hq (.inr (.inl (Option.isSome_iff_ne_none.2 found)))
  obtain ⟨callers, left, routes, phase, change⟩ := handle_unsubscribe (s := { s with queue := rest })
    unused (rfl : { s with queue := rest }.handle fault (.unsubscribe id) = _)
  generalize { s with queue := rest }.handle fault (.unsubscribe id) = t at *
  have caller : t.callers[k]? =
      some (c.detachedIf (id = c.request.id ∧ s.router.routes.contains id = true)) := by
    rw [callers]
    exact (h.of_rest queue).released hc id
  -- The request that may be sent is under an identifier of no caller.
  have untouched : t.router.pending.contains c.request.id = s.router.pending.contains c.request.id ∧
      (t.written.any fun r => r.id = c.request.id) = s.written.any fun r => r.id = c.request.id := by
    obtain ⟨pending, written⟩ | ⟨query, hq, pending, written⟩ := change
    · rw [pending, written]
      exact ⟨rfl, rfl⟩
    · have away : c.request.id ≠ s.ids.take.1 := fun same =>
        new query hq (.inl ⟨c.asked, List.mem_of_getElem? (getElem?_asked hc), same⟩)
      constructor
      · rw [pending, Table.contains, Table.get?_insert, if_neg away, Table.get?_keep, Table.contains]
        cases found : s.router.pending.get? c.request.id with
        | none => rfl
        | some entry =>
          rw [h.own_entry hc found, entryFor]
          split <;> rfl
      · simp [written, unsubscription, Ne.symm away]
  have errands : (s.life k c).errands =
      (errand? k c.request.id (.unsubscribe id)).toList ++ t.queue.filterMap (errand? k c.request.id) := by
    rw [left]
    simp only [life, queue, List.filterMap_cons]
    cases errand? k c.request.id (.unsubscribe id) <;> rfl
  have on : t.phase = .running ∨ t.phase = .leaving := phase.imp_left fun same => same.trans running
  by_cases own : id = c.request.id
  · subst own
    have next : errand? k c.request.id (.unsubscribe c.request.id) = some .unsubscribe := if_pos rfl
    rw [next] at errands
    have told : t.callers[k]? = some (c.detachedIf (s.life k c).routed) := by simpa [life] using caller
    refine .of_life _ told (.unsubscribed running on errands) rfl ?_
    have gone : t.router.routes.contains c.request.id = false := by
      simp [routes, Table.contains_erase]
    rw [life_of_request (c := c) (by simp)]
    simp only [life, untouched.1, untouched.2, gone]
    rfl
  · have none_own : errand? k c.request.id (.unsubscribe id) = none := if_neg own
    rw [none_own] at errands
    refine .of_still ?_ rfl errands.symm untouched.1 ?_ untouched.2
      (phase.imp_right fun left => ⟨running, left⟩)
    · simpa [own, Caller.detachedIf] using caller
    · simp [routes, Table.contains_erase, Ne.symm own]

/-- The task takes the wish to forget a request. -/
theorem goesOn_forget {id : RequestId} (queue : s.queue = .forget id :: rest) :
    GoesOn ⟨s, .handleNext fault⟩ k c ({ s with queue := rest }.handle fault (.forget id)) := by
  have callers : ({ s with queue := rest }.handle fault (.forget id)).callers[k]? =
      some (c.reached
        ((if id = c.request.id ∧ s.router.pending.contains id = true then [.hangUp k] else []) ++
          if id = c.request.id ∧ s.router.routes.contains id = true then [.endFeed k] else [])) := by
    simp only [handle, withRouter, Router.forget]
    rw [getElem?_deliver, hc, List.filter_append, h.hangUps hc id, h.endings hc id, Option.map_some]
  by_cases own : id = c.request.id
  · subst own
    have errands : (s.life k c).errands =
        .forget :: rest.filterMap (errand? k c.request.id) := by
      simp [life, queue, errand?]
    have told : ({ s with queue := rest }.handle fault (.forget c.request.id)).callers[k]? =
        some ((if (s.life k c).pending then c.answered .abandoned else c).detachedIf
          (s.life k c).routed) := by
      rw [callers]
      cases hp : s.router.pending.contains c.request.id <;>
        cases hr : s.router.routes.contains c.request.id <;>
        simp [life, hp, hr, Caller.detachedIf, Delivery.reach]
    refine .of_life _ told (.forgotten running errands) rfl ?_
    simp only [handle, withRouter, Router.forget, deliver_life]
    rw [life_of_request (c := c) (by split <;> simp)]
    simp [life, Table.contains_erase]
  · have none_own : errand? k c.request.id (.forget id) = none := if_neg own
    refine .of_still (by simpa [own] using callers) rfl ?_ ?_ ?_ ?_ (.inl ?_) <;>
      simp only [handle, withRouter, Router.forget] <;> rw [deliver_eq]
    · simp only [queue, List.filterMap_cons, none_own]
    · simp [Table.contains_erase, Ne.symm own]
    · simp [Table.contains_erase, Ne.symm own]

end Handle

/-! ## Frames -/

theorem share_receive {id : RequestId} {frame : SocketFrame} :
    share k id ⟨s, .receive frame⟩ =
      ⟨framesFor id ⟨s, .receive frame⟩, eventsFor id ⟨s, .receive frame⟩, [], []⟩ := rfl

/-- A frame under the identifier of a caller whose request waits. -/
theorem goesOn_answer (h : Ordered past s) (hc : s.callers[k]? = some c) (running : s.phase = .running)
    {frame : SocketFrame} {json : Json}
    (comes : incoming? ⟨s, .receive frame⟩ = some (c.request.id, json))
    (named : Router.frameId? json = some c.request.id)
    (waits : s.router.pending.contains c.request.id = true) :
    GoesOn ⟨s, .receive frame⟩ k c (s.withRouter (s.router.route c.request.id json)) := by
  have shared : share k c.request.id ⟨s, .receive frame⟩ = ⟨[json], [], [], []⟩ := by
    simp [share_receive, framesFor, eventsFor, comes, waits]
  obtain ⟨entry, found⟩ := Option.isSome_iff_exists.1 waits
  cases h.own_entry hc found
  have erased : (s.router.pending.erase c.request.id).contains c.request.id = false := by
    simp [Table.contains_erase]
  by_cases listens : c.listens = true
  · have entry : entryFor k c.asked = .subscribe k := if_pos listens
    simp only [Router.route, found, entry]
    cases outcome : Reply.outcomeOf (Reply.ofJson json) with
    | ok success =>
      simp only [Router.complete, Router.isFailure, Bool.false_eq_true, if_false]
      refine .of_life (c.answered (.filled (Reply.outcomeOf (Reply.ofJson json)))) ?_
        (.answered running waits named fun _ => by rw [outcome]; rfl) shared ?_
      · rw [withRouter, getElem?_deliver, hc]
        simp [Delivery.caller, Delivery.reach, outcome]
      · rw [withRouter, deliver_life, life_of_request (c := c) (by simp)]
        simp only [life, erased]
    | error error =>
      simp only [Router.complete, Router.isFailure, if_true]
      have gone : (s.router.routes.erase c.request.id).contains c.request.id = false := by
        simp [Table.contains_erase]
      refine .of_life ((c.detachedIf (s.life k c).routed).answered (.filled (.error error))) ?_
        (.rejected running waits named listens outcome) shared ?_
      · rw [withRouter, getElem?_deliver, hc, List.filter_append, h.endings hc]
        cases routed : s.router.routes.contains c.request.id <;>
          simp [life, routed, Caller.detachedIf, Delivery.caller, Delivery.reach]
      · rw [withRouter, deliver_life, life_of_request (c := c) (by simp)]
        simp only [life, erased, gone]
  · have entry : entryFor k c.asked = .call k := if_neg listens
    simp only [Router.route, found, entry]
    refine .of_life (c.answered (.filled (Reply.outcomeOf (Reply.ofJson json)))) ?_
      (.answered running waits named fun mine => absurd mine listens) shared ?_
    · rw [Router.complete, withRouter, getElem?_deliver, hc]
      simp [Delivery.caller, Delivery.reach]
    · rw [Router.complete, withRouter, deliver_life, life_of_request (c := c) (by simp)]
      simp only [life, erased]

/-- A frame that answers somebody else, or nobody. -/
theorem goesOn_answer_other (h : Ordered past s) (hc : s.callers[k]? = some c) {frame : SocketFrame}
    {name : RequestId} {json : Json} {entry : Pending}
    (comes : incoming? ⟨s, .receive frame⟩ = some (name, json)) (other : name ≠ c.request.id)
    (found : s.router.pending.get? name = some entry) :
    GoesOn ⟨s, .receive frame⟩ k c (s.withRouter (s.router.route name json)) := by
  have quiet : share k c.request.id ⟨s, .receive frame⟩ = .none := by
    simp [share_receive, framesFor, eventsFor, comes, other, Table.contains, found, Share.none]
  have away : ∀ d ∈ (s.router.route name json).2, d.caller ≠ k := by
    intro d hd
    cases Router.tells_of_route d hd with
    | answer own waits =>
      cases found.symm.trans own
      obtain ⟨same, -⟩ | ⟨-, ⟨sent, rfl⟩ | ⟨n, ask, rfl, apart⟩⟩ := h.entry_cases hc found
      · exact absurd same other
      · cases waits
      · rw [caller?_entryFor] at waits
        exact Option.some.inj waits ▸ apart
    | endFeed routed => exact h.other_route hc routed other
    | event unknown => cases unknown.symm.trans found
  have none : (s.router.route name json).2.filter (fun d => d.caller = k) = [] :=
    List.filter_eq_nil_iff.2 fun d hd => by simpa using away d hd
  refine .of_still ?_ quiet ?_ ?_ ?_ ?_ (.inl ?_) <;> rw [withRouter]
  · rw [getElem?_deliver, none, hc]
    rfl
  all_goals rw [deliver_eq, Router.route_tables]
  · rw [Table.contains, Router.pending_settle, if_neg (Ne.symm other), Table.contains]
  · rw [Table.contains, Router.routes_settle (Ne.symm other), Table.contains]

/-- A frame that answers no request. -/
theorem goesOn_event (h : Ordered past s) (hc : s.callers[k]? = some c) (running : s.phase = .running)
    {frame : SocketFrame} {name : RequestId} {json : Json}
    (comes : incoming? ⟨s, .receive frame⟩ = some (name, json))
    (unknown : s.router.pending.get? name = none) :
    GoesOn ⟨s, .receive frame⟩ k c (s.withRouter (s.router.route name json)) := by
  have frames : framesFor c.request.id ⟨s, .receive frame⟩ = [] := by
    simp only [framesFor, comes]
    refine if_neg ?_
    rintro ⟨rfl, waits⟩
    simp [Table.contains, unknown] at waits
  simp only [Router.route, unknown]
  cases found : s.router.routes.get? name.key with
  | none =>
    refine .of_still hc ?_ rfl rfl rfl rfl (.inl rfl)
    have events : eventsFor c.request.id ⟨s, .receive frame⟩ = [] := by
      simp only [eventsFor, comes]
      refine if_neg ?_
      rintro ⟨key, routed, -⟩
      simp [Table.contains, ← key, found] at routed
    rw [share_receive, frames, events]
    rfl
  | some route =>
    simp only
    by_cases own : name.key = c.request.id
    · obtain ⟨mine, -⟩ := h.own_route hc (own ▸ found)
      have routed : s.router.routes.contains c.request.id = true := by
        simp [Table.contains, ← own, found]
      have step : (s.life k c).Step ⟨s, .receive frame⟩ k ⟨[], [Router.eventOf json], [], []⟩ _ :=
        .heard running routed
      refine .of_life (c.heard (Router.eventOf json)) ?_ step ?_ ?_
      · rw [withRouter, getElem?_deliver, hc]
        simp [Delivery.caller, Delivery.reach, mine]
      · have silent : s.router.pending.contains name = false := by simp [Table.contains, unknown]
        rw [share_receive, frames]
        simp [eventsFor, comes, own, routed, silent]
      · rw [withRouter, deliver_life, life_of_request (c := c) (by simp)]
        rfl
    · have away := h.other_route hc found own
      refine .of_still ?_ ?_ ?_ ?_ ?_ ?_ (.inl ?_)
      · rw [withRouter, getElem?_deliver, hc]
        simp [Delivery.caller, away]
      · rw [share_receive, frames]
        simp [eventsFor, comes, own, Share.none]
      all_goals rw [withRouter, deliver_eq]

theorem goesOn_receive (h : Ordered past s) (hc : s.callers[k]? = some c)
    (running : s.phase = .running) (frame : SocketFrame) :
    GoesOn ⟨s, .receive frame⟩ k c (s.receive frame) := by
  rw [receive_eq]
  cases comes : incoming? ⟨s, .receive frame⟩ with
  | none =>
    refine .of_still hc ?_ rfl rfl rfl rfl (.inl rfl)
    simp [share_receive, framesFor, eventsFor, comes, Share.none]
  | some arrival =>
    obtain ⟨name, json⟩ := arrival
    simp only
    cases found : s.router.pending.get? name with
    | none => exact goesOn_event h hc running comes found
    | some entry =>
      by_cases own : name = c.request.id
      · subst own
        exact goesOn_answer h hc running comes (frameId?_of_incoming comes)
          (by simp [Table.contains, found])
      · exact goesOn_answer_other h hc comes own found

/-! ## The end -/

theorem Ordered.closings (h : Ordered past s) (hc : s.callers[k]? = some c) :
    s.router.shutdown.2.filter (fun d => d.caller = k) =
      (if s.router.pending.contains c.request.id then [.answer k (.error .transportClosed)] else []) ++
        if s.router.routes.contains c.request.id then
          [.event k (.error .transportClosed), .endFeed k]
        else [] := by
  simp only [Router.shutdown, List.filter_append, List.filter_flatMap]
  congr 1
  · rw [Table.flatMap_entries s.router.pending c.request.id]
    · cases found : s.router.pending.get? c.request.id with
      | none => simp [Table.contains, found]
      | some entry =>
        cases h.own_entry hc found
        rw [if_pos (by simp [Table.contains, found]), entryFor]
        split <;> simp [Router.closePending, Delivery.caller]
    · intro other entry found away
      obtain ⟨own, -⟩ | ⟨-, ⟨sent, rfl⟩ | ⟨n, ask, rfl, apart⟩⟩ := h.entry_cases hc found
      · exact absurd own away
      · rfl
      · simp only [entryFor]
        split <;> simp [Router.closePending, Delivery.caller, apart]
  · rw [Table.flatMap_entries s.router.routes c.request.id]
    · cases found : s.router.routes.get? c.request.id with
      | none => simp [Table.contains, found]
      | some route =>
        obtain ⟨mine, -⟩ := h.own_route hc found
        rw [if_pos (by simp [Table.contains, found])]
        simp [Router.closeRoute, Delivery.caller, mine]
    · intro other route found away
      have apart := h.other_route hc found away
      simp [Router.closeRoute, Delivery.caller, apart]

/-- What is thrown away with the queue reaches a caller whose own command is in it. -/
theorem discarded_own {queue : List SocketCommand} {ask : Request × Bool} (id : RequestId)
    (own : ∀ command ∈ queue, asker? command = some k → command = commandFor k ask) :
    (queue.flatMap discarded).filter (fun d => d.caller = k) =
      (queue.filterMap (errand? k id)).flatMap fun errand =>
        if errand = .ask then discarded (commandFor k ask) else [] := by
  induction queue with
  | nil => rfl
  | cons command rest ih =>
    rw [List.flatMap_cons, List.filter_append, List.filterMap_cons,
      ih fun other hother => own other (List.mem_cons_of_mem _ hother)]
    have mine := own command List.mem_cons_self
    cases command with
    | call request n | listen request n =>
      by_cases here : n = k
      · subst here
        rw [← mine rfl]
        simp [errand?, discarded, Delivery.caller]
      · simp [errand?, discarded, Delivery.caller, here]
    | unsubscribe other | forget other =>
      by_cases here : other = id <;> simp [errand?, discarded, here]
    | disconnect => simp [errand?, discarded]

theorem flatMap_ask {β : Type} {errands : List Errand} (once : .ask ∉ errands.tail)
    (xs : List β) :
    (errands.flatMap fun errand => if errand = .ask then xs else []) =
      if errands.contains .ask then xs else [] := by
  cases errands with
  | nil => rfl
  | cons errand rest =>
    have others : (rest.flatMap fun errand => if errand = .ask then xs else []) = [] := by
      rw [List.flatMap_eq_nil_iff]
      intro other hother
      refine if_neg ?_
      rintro rfl
      exact once hother
    have absent : .ask ∉ rest := once
    rw [List.flatMap_cons, others]
    cases errand <;> simp [absent]

/-- What the end of the task delivers to a caller. -/
theorem reached_closings (pending routed asks : Bool) :
    c.reached
      (((if pending then [.answer k (.error .transportClosed)] else []) ++
          if routed then [.event k (.error .transportClosed), .endFeed k] else []) ++
        if asks then discarded (commandFor k c.asked) else []) =
      c.closed pending routed asks := by
  by_cases listens : c.listens = true
  · have discards : discarded (commandFor k c.asked) = [.hangUp k, .endFeed k] := by
      simp [commandFor, Caller.asked, listens, discarded]
    rw [discards]
    cases pending <;> cases routed <;> cases asks <;>
      simp [Caller.closed, Caller.detachedIf, Delivery.reach, listens]
  · have discards : discarded (commandFor k c.asked) = [.hangUp k] := by
      simp [commandFor, Caller.asked, listens, discarded]
    rw [discards]
    cases pending <;> cases routed <;> cases asks <;>
      simp [Caller.closed, Caller.detachedIf, Delivery.reach, listens]

@[simp] theorem closed_request (pending routed asks : Bool) :
    (c.closed pending routed asks).request = c.request := by
  cases pending <;> cases routed <;> cases asks <;> simp [Caller.closed]

theorem goesOn_finish (h : Ordered past s) (hc : s.callers[k]? = some c)
    (once : .ask ∉ (s.life k c).errands.tail) (leaving : s.phase = .leaving) :
    GoesOn ⟨s, .finish⟩ k c s.finish := by
  have own : ∀ command ∈ s.queue, asker? command = some k → command = commandFor k c.asked := by
    intro command hcommand hk
    obtain ⟨ask, hask, heq⟩ := h.asker hcommand hk
    rw [getElem?_asked hc] at hask
    cases hask
    exact heq
  refine .of_life (c.closed (s.life k c).pending (s.life k c).routed
    ((s.life k c).errands.contains .ask)) ?_ (.finished leaving) rfl ?_
  · have asks := flatMap_ask once (discarded (commandFor k c.asked))
    rw [finish_eq, getElem?_deliver, hc, List.filter_append, h.closings hc,
      discarded_own c.request.id own]
    have told := reached_closings (k := k) (c := c) (s.life k c).pending (s.life k c).routed
      ((s.life k c).errands.contains .ask)
    rw [← asks] at told
    exact congrArg some told
  · rw [finish_eq, deliver_life, life_of_request (c := c) (by simp)]
    rfl

/-! ## Runs -/

/-- A request that the task takes next is under a free identifier. -/
theorem free_of_sound (h : Ordered past s)
    (sound : ∀ k c, s.callers[k]? = some c → (s.life k c).Sound) (n : Nat) (ask : Request × Bool)
    (rest : List SocketCommand) (queue : s.queue = commandFor n ask :: rest) :
    s.router.isOutstanding ask.1.id = false := by
  obtain ⟨ask', hask, same⟩ := h.asker (queue ▸ List.mem_cons_self) (asker?_commandFor n ask)
  cases commandFor_injective same
  obtain ⟨c, hc, rfl⟩ := exists_caller hask
  have asks : .ask ∈ (s.life n c).errands := by
    simp [life, queue]
  obtain ⟨pending, routed, -⟩ := (sound n c hc).untouched (.inr asks)
  rw [Router.isOutstanding, Bool.or_eq_false_iff]
  exact ⟨pending, routed⟩

theorem getElem?_beginWith {listens : Bool} {request : Request} (hc : s.callers[k]? = some c) :
    (s.beginWith listens request).callers[k]? = some c := by
  obtain ⟨small, -⟩ := List.getElem?_eq_some_iff.1 hc
  rw [beginWith, List.getElem?_append_left small, hc]

/-- Every step goes on with every life. -/
theorem goesOn_step (h : Ordered past s) {action : Action}
    (distinct : Distinct (past ++ [⟨s, action⟩]))
    (sound : ∀ k c, s.callers[k]? = some c → (s.life k c).Sound)
    (hc : s.callers[k]? = some c) (hs : s.step action = some t) : GoesOn ⟨s, action⟩ k c t := by
  cases Happens.of_step hs with
  | comes | comesNext => exact .of_still (getElem?_beginWith hc) rfl rfl rfl rfl rfl (.inl rfl)
  | @acts _ n d _ actor found acts =>
    by_cases own : n = k
    · subst own
      rw [hc] at found
      cases found
      exact goesOn_own hc actor acts
    · exact goesOn_other h hc found own actor acts
  | @handled fault command rest running queue =>
    have head : command ∈ s.queue := by simp [queue]
    obtain rfl | ⟨n, ask, hask, rfl | rfl | rfl⟩ := h.queued command head
    · refine .of_still hc rfl ?_ rfl rfl rfl (.inr ⟨running, rfl⟩)
      rw [queue, List.filterMap_cons_none rfl]
      rfl
    · exact goesOn_ask h hc fault running queue hask (free_of_sound h sound n ask rest queue)
    · exact goesOn_unsubscribe h hc fault running queue
        fun _ found => h.fresh_unsubscribe distinct queue found
    · exact goesOn_forget h hc fault running queue
  | @received frame running => exact goesOn_receive h hc running frame
  | finished leaving => exact goesOn_finish h hc (sound k c hc).once leaving
  | lost running => exact .of_still hc rfl rfl rfl rfl rfl (.inr ⟨running, rfl⟩)
  | asked =>
    rw [enqueue_eq]
    refine .of_still hc rfl ?_ rfl rfl rfl (.inl rfl)
    split <;> simp [errand?]
  | marked | passed | skipped => exact .of_still hc rfl rfl rfl rfl rfl (.inl rfl)

/-- A step adds one caller if it is the coming of that caller, and none otherwise. -/
theorem callers_step {action : Action} (hs : s.step action = some t) :
    t.asked = s.asked ∨
      ∃ listens request ids, t = { s with ids }.beginWith listens request ∧
        used ⟨s, action⟩ = [request.id] := by
  cases Happens.of_step hs with
  | @comes listens request => exact .inr ⟨listens, request, s.ids, rfl, rfl⟩
  | @comesNext listens method params => exact .inr ⟨listens, _, _, rfl, rfl⟩
  | handled => exact .inl (asked_handle _ _ _)
  | received =>
    rw [receive_eq]
    split
    · exact .inl (asked_deliver _ _)
    · exact .inl rfl
  | finished =>
    rw [finish_eq]
    exact .inl (asked_deliver _ _)
  | asked =>
    rw [enqueue_eq]
    exact .inl rfl
  | @acts _ n d _ _ _ acts =>
    obtain ⟨commands, f, rfl, -, keeps⟩ := callerStep_eq acts
    exact .inl (asked_modifyCaller _ n keeps)
  | _ => exact .inl rfl

/-- Nothing was brought to a caller before it came. -/
theorem share_unknown {m : Moment Socket Action} (ordered : Ordered past m.before)
    {id : RequestId} (unused : id ∉ past.flatMap used) (few : m.before.callers.length ≤ k) :
    share k id m = .none := by
  have unknown : ¬ m.before.Knows id := fun knows => unused (ordered.known id knows)
  obtain ⟨noEntry, noRoute⟩ := Bool.or_eq_false_iff.1 (ordered.free unknown)
  have nobody : m.before.callers[k]? = none := List.getElem?_eq_none few
  have frames : framesFor id m = [] := by
    unfold framesFor
    split <;> simp [noEntry]
  have events : eventsFor id m = [] := by
    unfold eventsFor
    split <;> simp [noRoute]
  have closing : closingFor id m = [] := by
    unfold closingFor
    split <;> simp [noRoute]
  have reads : readBy k m = [] := by
    unfold readBy
    split <;> simp [nobody]
  rw [share, frames, events, closing, reads]
  rfl

theorem newcomer {listens : Bool} {request : Request} {ids : RequestId.Counter}
    (large : s.callers.length ≤ k)
    (hc : ({ s with ids }.beginWith listens request).callers[k]? = some c) :
    k = s.callers.length ∧
      c = .start request listens
        (if s.connected then .admitted else .resolved (.error .notConnected)) := by
  rw [beginWith, List.getElem?_append_right large] at hc
  obtain ⟨small, found⟩ := List.getElem?_eq_some_iff.1 hc
  have last : k - s.callers.length = 0 := by simpa using small
  simp only [last, List.getElem_cons_zero] at found
  exact ⟨by omega, found.symm⟩

/-- A caller that is there after a step and was not there before has come in it. -/
theorem newcomer_step {action : Action} (hs : s.step action = some t)
    (new : s.callers[k]? = none) (hc : t.callers[k]? = some c) :
    ∃ listens request ids, t = { s with ids }.beginWith listens request ∧
      used ⟨s, action⟩ = [request.id] ∧ k = s.callers.length ∧
      c = .start request listens
        (if s.connected then .admitted else .resolved (.error .notConnected)) := by
  have large := List.getElem?_eq_none_iff.1 new
  obtain same | ⟨listens, request, ids, rfl, taken⟩ := callers_step hs
  · have lengths := congrArg List.length same
    simp only [asked, List.length_map] at lengths
    obtain ⟨small, -⟩ := List.getElem?_eq_some_iff.1 hc
    omega
  · exact ⟨listens, request, ids, rfl, taken, newcomer large hc⟩

/-- A caller that comes is born. -/
theorem born_life (h : Ordered past s) {listens : Bool} {request : Request}
    (new : ¬ s.Knows request.id) (ids : RequestId.Counter) {stage : CallerStage} :
    ({ s with ids }.beginWith listens request).life s.callers.length (.start request listens stage) =
      .born request listens stage s.phase := by
  have errands : s.queue.filterMap (errand? s.callers.length request.id) = [] := by
    rw [List.filterMap_eq_nil_iff]
    intro command hcommand
    obtain rfl | ⟨n, ask, hask, own⟩ := h.queued command hcommand
    · rfl
    · have away : n ≠ s.callers.length := by
        rintro rfl
        simp [asked] at hask
      have other : ask.1.id ≠ request.id := fun same =>
        new (.inl ⟨ask, List.mem_of_getElem? hask, same⟩)
      obtain rfl | rfl | rfl := own
      · rw [errand?_commandFor, if_neg away]
      · exact if_neg other
      · exact if_neg other
  obtain ⟨pending, routed⟩ := Bool.or_eq_false_iff.1 (h.free new)
  have written : (s.written.any fun r => r.id = request.id) = false := by
    rw [List.any_eq_false]
    intro r hr same
    exact new (.inr (.inr ⟨r, hr, by simpa using same⟩))
  have same : ({ s with ids }.beginWith listens request).life s.callers.length
      (.start request listens stage) =
      ⟨.start request listens stage, s.queue.filterMap (errand? s.callers.length request.id),
        s.router.pending.contains request.id, s.router.routes.contains request.id,
        s.written.any fun r => r.id = request.id, s.phase⟩ := rfl
  rw [same, errands, pending, routed, written]
  rfl

/-- Over every run that uses no identifier twice, everything under an identifier is one caller's,
at its end as at each of its moments, and every caller has lived it. -/
theorem lived_run {timeout : Duration} {ids : RequestId.Counter}
    (run : History step (opened timeout ids) past s) (distinct : Distinct past) :
    Ordered past s ∧
      (∀ m ∈ past, Ordered past m.before ∧ m.before.callers.length ≤ s.callers.length) ∧
      ∀ k c, s.callers[k]? = some c → Lived k past (s.life k c) := by
  induction run with
  | start => exact ⟨ordered_opened timeout ids, by simp, by simp [opened]⟩
  | @next past s t action _ hs ih =>
    obtain ⟨h, moments, lives⟩ := ih distinct.of_append
    have sound : ∀ k c, s.callers[k]? = some c → (s.life k c).Sound :=
      fun k c hc => (lives k c hc).sound
    have on : ∀ k c, s.callers[k]? = some c → GoesOn ⟨s, action⟩ k c t :=
      fun k c hc => goesOn_step h distinct sound hc hs
    have more : s.callers.length ≤ t.callers.length := by
      by_contra fewer
      obtain ⟨d, hd, -⟩ := on t.callers.length _ (List.getElem?_eq_getElem (by omega))
      simp at hd
    refine ⟨ordered_step h distinct (free_of_sound h sound) hs, ?_, ?_⟩
    · intro m hm
      obtain hm | hm := List.mem_append.1 hm
      · obtain ⟨ordered, few⟩ := moments m hm
        exact ⟨ordered.later _, Nat.le_trans few more⟩
      · rw [List.mem_singleton.1 hm]
        exact ⟨h.later _, more⟩
    · intro k c' hc'
      cases hc : s.callers[k]? with
      | some c =>
        obtain ⟨d, hd, step⟩ := on k c hc
        rw [hc'] at hd
        cases hd
        exact .next (lives k c hc) step rfl
      | none =>
        obtain ⟨listens, request, ids, rfl, taken, rfl, rfl⟩ := newcomer_step hs hc hc'
        have unused : request.id ∉ past.flatMap used := by
          rw [Distinct, List.flatMap_append, List.nodup_append] at distinct
          exact fun old => distinct.2.2 _ old _ (by simp [taken]) rfl
        have new : ¬ s.Knows request.id := fun knows => unused (h.known _ knows)
        rw [born_life h new ids]
        refine .born (by split <;> simp) ?_
        intro m hm
        obtain hm | hm := List.mem_append.1 hm
        · obtain ⟨ordered, few⟩ := moments m hm
          exact share_unknown ordered unused few
        · rw [List.mem_singleton.1 hm]
          exact share_unknown h unused (Nat.le_refl _)

/-- What every step of a life keeps, a caller keeps for as long as the run goes on. -/
theorem lives_on {timeout : Duration} {ids : RequestId.Counter} {P : Life → Prop}
    (run : History step (opened timeout ids) past s)
    (kept : ∀ {m share} {l l' : Life}, l.Step m k share l' → P l → P l')
    (hc : s.callers[k]? = some c) (holds : P (s.life k c)) {later : List (Moment Socket Action)}
    (rest : History step s later t) (distinct : Distinct (past ++ later)) :
    ∃ d, t.callers[k]? = some d ∧ P (t.life k d) := by
  induction rest with
  | start => exact ⟨c, hc, holds⟩
  | @next later u t action rest hs ih =>
    rw [← List.append_assoc] at distinct
    obtain ⟨d, hd, before⟩ := ih distinct.of_append
    obtain ⟨h, -, lives⟩ := lived_run (run.append rest) distinct.of_append
    obtain ⟨e, he, step⟩ := goesOn_step h distinct (fun n b hb => (lives n b hb).sound) hd hs
    exact ⟨e, he, kept step before⟩

end Socket

end Tendermint
