import Tendermint.Proofs.Socket.Lives
import Tendermint.Proofs.Socket.Tables

/-!
# Tendermint.Proofs.Socket.Ownership

Who is behind a command, an entry and a route, whatever identifiers the callers choose.

* `handed`, `requeues_step`: what callers put into the queue, and how it leaves the queue.
* `handed_run`: every command in the queue was put there by a caller, or by the client.
* `Owned`, `owned_run`: everything in the queue and in the tables is that of a caller who asked for
  it under its identifier.
* `used_of_outstanding`: whatever is outstanding is under an identifier that the run took into use.
-/

namespace Tendermint

namespace Socket

variable {past : List (Moment Socket Action)} {s t : Socket} {action : Action} {timeout : Duration}
  {ids : RequestId.Counter}

/-! ## The queue -/

/-- What a caller puts into the queue with an action of its own. -/
def handed (n : Nat) (c : Caller) : Action → List SocketCommand
  | .submit _ => [commandFor n c.asked]
  | .expire _ => [.forget c.request.id]
  | .dropStream _ => [.unsubscribe c.request.id]
  | _ => []

theorem handed_cases {n : Nat} {c : Caller} (actor : action.caller? = some n)
    {command : SocketCommand} (mine : command ∈ handed n c action) :
    command = commandFor n c.asked ∧ action = .submit n ∨
      command = .forget c.request.id ∧ action = .expire n ∨
      command = .unsubscribe c.request.id ∧ action = .dropStream n := by
  cases action with
  | submit =>
    cases actor
    exact .inl ⟨List.mem_singleton.1 mine, rfl⟩
  | expire =>
    cases actor
    exact .inr (.inl ⟨List.mem_singleton.1 mine, rfl⟩)
  | dropStream =>
    cases actor
    exact .inr (.inr ⟨List.mem_singleton.1 mine, rfl⟩)
  | _ => cases mine

theorem callerStep_queue {n : Nat} {c : Caller} (h : s.callerStep n c action = some t) :
    t.queue = s.queue ++ if s.phase = .finished then [] else handed n c action := by
  cases action with
  | submit =>
    simp only [callerStep] at h
    split at h
    · cases Option.some.inj h
      rw [submitFrom_eq]
      split <;> simp [modifyCaller, handed]
    · cases h
  | resume | abandon =>
    simp only [callerStep] at h
    split at h
    · cases Option.some.inj h
      simp [modifyCaller, handed]
    · cases h
  | expire =>
    simp only [callerStep] at h
    split at h
    · obtain ⟨-, h⟩ := Option.ite_none_right_eq_some.1 h
      cases Option.some.inj h
      rw [expireFrom, enqueue_eq]
      rfl
    · cases h
  | read =>
    obtain ⟨-, h⟩ := Option.ite_none_right_eq_some.1 h
    cases Option.some.inj h
    simp [modifyCaller, handed]
  | dropStream =>
    obtain ⟨-, h⟩ := Option.ite_none_right_eq_some.1 h
    cases Option.some.inj h
    rw [enqueue_eq]
    rfl
  | _ => cases h

theorem handle_queue (fault : Option NetworkFault) (command : SocketCommand) (s : Socket) :
    (s.handle fault command).queue = s.queue := by
  have delivered : ∀ (ds : List Delivery) (u : Socket), (u.deliver ds).queue = u.queue := by
    intro ds u
    rw [deliver_eq]
  cases command with
  | call request n | listen request n =>
    simp only [handle]
    split
    · exact delivered _ s
    · split
      · exact delivered _ s
      · exact delivered _ _
  | unsubscribe id =>
    have parted : (s.withRouter (s.router.takeRoute id).2).queue = s.queue := delivered _ _
    simp only [handle]
    split
    · exact parted
    · split
      · exact parted
      · exact (delivered _ _).trans parted
  | forget id => exact delivered _ _
  | disconnect => rfl

/-- A command that is put into the queue at a moment is that of the caller that acts, or a
`disconnect`. -/
def HandsIn (m : Moment Socket Action) (command : SocketCommand) : Prop :=
  command = .disconnect ∨ ∃ n c, m.action.caller? = some n ∧ m.before.callers[n]? = some c ∧
    command ∈ handed n c m.action

/-- What a moment makes of the queue. -/
inductive Requeues (m : Moment Socket Action) : List SocketCommand → Prop where
  | taken {command : SocketCommand} {rest : List SocketCommand}
      (handled : handled? m = some command) (queue : m.before.queue = command :: rest) :
      Requeues m rest
  | joined {added : List SocketCommand} (idle : handled? m = none) (goesOn : m.action ≠ .finish)
      (own : ∀ command ∈ added, HandsIn m command) : Requeues m (m.before.queue ++ added)
  | ended (action : m.action = .finish) : Requeues m []

theorem requeues_step (hs : s.step action = some t) : Requeues ⟨s, action⟩ t.queue := by
  have kept : t.queue = s.queue → handled? ⟨s, action⟩ = none → action ≠ .finish →
      Requeues ⟨s, action⟩ t.queue := by
    intro same idle goesOn
    have nothing : Requeues ⟨s, action⟩ (s.queue ++ []) := .joined idle goesOn (by rintro _ ⟨⟩)
    rwa [List.append_nil, ← same] at nothing
  cases Happens.of_step hs with
  | @handled fault command rest _ queue =>
    rw [handle_queue]
    exact .taken (handled?_of_queue queue fault) queue
  | finished =>
    rw [finish_eq, deliver_eq]
    exact .ended rfl
  | received =>
    refine kept ?_ rfl (by rintro ⟨⟩)
    rw [receive_eq]
    split
    · rw [withRouter, deliver_eq]
    · rfl
  | asked =>
    rw [enqueue_eq]
    refine .joined rfl (by rintro ⟨⟩) ?_
    intro command added
    split at added
    · cases added
    · exact .inl (List.mem_singleton.1 added)
  | @acts _ n c _ actor found acts =>
    rw [callerStep_queue acts]
    refine .joined (idle_of_caller actor).1 ?_ ?_
    · rintro rfl
      cases actor
    · intro command added
      split at added
      · cases added
      · exact .inr ⟨n, c, actor, found, added⟩
  | _ => exact kept rfl rfl (by rintro ⟨⟩)

theorem finish_step (hs : s.step .finish = some t) : t.phase = .finished ∧ t.queue = [] := by
  cases Happens.of_step hs with
  | finished =>
    rw [finish_eq, deliver_eq]
    exact ⟨rfl, rfl⟩
  | acts actor => cases actor

/-- A command stays in the queue until the task takes it or finishes. -/
theorem Requeues.stays {m : Moment Socket Action} {queue : List SocketCommand} (h : Requeues m queue)
    {command : SocketCommand} (queued : command ∈ m.before.queue) :
    command ∈ queue ∨ handled? m = some command ∨ m.action = .finish := by
  cases h with
  | taken handled whole =>
    rw [whole] at queued
    obtain rfl | later := List.mem_cons.1 queued
    · exact .inr (.inl handled)
    · exact .inl later
  | joined => exact .inl (List.mem_append_left _ queued)
  | ended action => exact .inr (.inr action)

theorem Requeues.comes {m : Moment Socket Action} {queue : List SocketCommand} (h : Requeues m queue)
    {command : SocketCommand} (queued : command ∈ queue) :
    command ∈ m.before.queue ∨ HandsIn m command := by
  cases h with
  | taken _ whole => exact .inl (by simp [whole, queued])
  | joined _ _ own => exact (List.mem_append.1 queued).imp_right (own command)
  | ended => cases queued

/-- Whatever is in the queue was put there at a moment of the run. -/
theorem handed_run (run : History step (opened timeout ids) past s) {command : SocketCommand}
    (queued : command ∈ s.queue) : ∃ m ∈ past, HandsIn m command := by
  induction run with
  | start => cases queued
  | @next past s t action _ hs ih =>
    obtain before | now := (requeues_step hs).comes queued
    · obtain ⟨m, hm, comes⟩ := ih before
      exact ⟨m, List.mem_append_left _ hm, comes⟩
    · exact ⟨_, List.mem_append_right _ (List.mem_singleton_self _), now⟩

/-- The caller that put a command into the queue, if the command was handled. -/
theorem handed_of_handled (run : History step (opened timeout ids) past s) {m : Moment Socket Action}
    (hm : m ∈ past) {command : SocketCommand} (handled : handled? m = some command)
    (stays : command ≠ .disconnect) :
    ∃ e ∈ past, ∃ k c, e.action.caller? = some k ∧ e.before.callers[k]? = some c ∧
      command ∈ handed k c e.action := by
  obtain ⟨before, later, rfl⟩ := List.append_of_mem hm
  obtain ⟨t, run_before, -⟩ := run.split_at
  obtain ⟨_, _, -, queue⟩ := handled?_eq_some handled
  obtain ⟨e, he, leaves | hands⟩ := handed_run run_before (queue ▸ List.mem_cons_self)
  · exact absurd leaves stays
  · exact ⟨e, List.mem_append_left _ he, hands⟩

/-! ## The tables -/

theorem asked_step (hs : s.step action = some t) {n : Nat} {ask : Request × Bool}
    (hask : s.asked[n]? = some ask) : t.asked[n]? = some ask := by
  obtain same | ⟨listens, request, ids, rfl, -⟩ := callers_step hs
  · rw [same, hask]
  · obtain ⟨small, -⟩ := List.getElem?_eq_some_iff.1 hask
    rw [asked_beginWith]
    change (s.asked ++ _)[n]? = _
    rw [List.getElem?_append_left small, hask]

theorem asked_run (run : History step s past t) {n : Nat} {ask : Request × Bool}
    (hask : s.asked[n]? = some ask) : t.asked[n]? = some ask := by
  induction run with
  | start => exact hask
  | next _ hs ih => exact asked_step hs ih

/-- A caller was there before a run, or took its identifier into use in it. -/
theorem asker_of_run (run : History step s past t) {ask : Request × Bool} (asks : ask ∈ t.asked) :
    ask ∈ s.asked ∨ ask.1.id ∈ past.flatMap used := by
  induction run with
  | start => exact .inl asks
  | next _ hs ih =>
    rw [List.flatMap_append, List.mem_append]
    obtain same | ⟨listens, request, ids, rfl, taken⟩ := callers_step hs
    · rw [same] at asks
      exact (ih asks).imp_right .inl
    · rw [asked_beginWith] at asks
      obtain before | new := List.mem_append.1 asks
      · exact (ih before).imp_right .inl
      · rw [List.mem_singleton.1 new]
        exact .inr (.inr (by simp [taken]))

/-- Everything in the queue and in the tables is that of a caller that asked for it. -/
structure Owned (s : Socket) : Prop where
  asker : ∀ n ask, commandFor n ask ∈ s.queue → s.asked[n]? = some ask
  entry : ∀ id entry, s.router.pending.get? id = some entry →
    (∃ sent, entry = .ignored sent) ∨
      ∃ n ask, s.asked[n]? = some ask ∧ ask.1.id = id ∧ entry = entryFor n ask
  /-- A route keeps the query of its subscription, which was written to the socket. -/
  route : ∀ id route, s.router.routes.get? id = some route →
    ∃ ask, s.asked[route.caller]? = some ask ∧ ask.1.id = id ∧ ask.2 = true ∧
      route.query = ask.1.query? ∧ ask.1 ∈ s.written

section Step

variable (owned : s.Owned) (hs : s.step action = some t)
include owned hs

theorem Owned.asker_step (n : Nat) (ask : Request × Bool) (queued : commandFor n ask ∈ t.queue) :
    t.asked[n]? = some ask := by
  have asks := asker?_commandFor n ask
  obtain before | leaves | ⟨k, c, actor, found, mine⟩ := (requeues_step hs).comes queued
  · exact asked_step hs (owned.asker n ask before)
  · simp [leaves, asker?] at asks
  · obtain ⟨own, -⟩ | ⟨own, -⟩ | ⟨own, -⟩ := handed_cases actor mine
    · rw [own, asker?_commandFor] at asks
      cases asks
      rw [commandFor_injective own]
      exact asked_step hs (getElem?_asked found)
    · simp [own, asker?] at asks
    · simp [own, asker?] at asks

theorem Owned.entry_step (id : RequestId) (entry : Pending)
    (found : t.router.pending.get? id = some entry) :
    (∃ sent, entry = .ignored sent) ∨
      ∃ n ask, t.asked[n]? = some ask ∧ ask.1.id = id ∧ entry = entryFor n ask := by
  have old : s.router.pending.get? id = some entry → (∃ sent, entry = .ignored sent) ∨
      ∃ n ask, t.asked[n]? = some ask ∧ ask.1.id = id ∧ entry = entryFor n ask := by
    intro before
    obtain ignored | ⟨n, ask, hask, rest⟩ := owned.entry id entry before
    · exact .inl ignored
    · exact .inr ⟨n, ask, asked_step hs hask, rest⟩
  have changes := changes_step hs
  generalize t.router = router at changes found
  cases changes with
  | kept | parted => exact old found
  | @noted n ask handled =>
    simp only [noted, Table.get?_insert] at found
    split at found
    · rename_i own
      cases found
      obtain ⟨_, rest, -, queue⟩ := handled?_eq_some handled
      have hask := owned.asker n ask (queue ▸ List.mem_cons_self)
      exact .inr ⟨n, ask, asked_step hs hask, own.symm, rfl⟩
    · exact old found
  | unsubscribed =>
    simp only [Table.get?_insert] at found
    split at found
    · cases found
      exact .inl ⟨_, rfl⟩
    · exact old (Table.get?_of_keep found)
  | forgotten | answered => exact old (Table.get?_of_erase found)
  | ended => cases found

theorem Owned.route_step (id : RequestId) (route : Route)
    (found : t.router.routes.get? id = some route) :
    ∃ ask, t.asked[route.caller]? = some ask ∧ ask.1.id = id ∧ ask.2 = true ∧
      route.query = ask.1.query? ∧ ask.1 ∈ t.written := by
  have more := written_step hs
  have old : s.router.routes.get? id = some route →
      ∃ ask, t.asked[route.caller]? = some ask ∧ ask.1.id = id ∧ ask.2 = true ∧
        route.query = ask.1.query? ∧ ask.1 ∈ t.written := by
    intro before
    obtain ⟨ask, hask, name, listens, query, sent⟩ := owned.route id route before
    exact ⟨ask, asked_step hs hask, name, listens, query, more ▸ List.mem_append_left _ sent⟩
  have changes := changes_step hs
  generalize t.router = router at changes found
  cases changes with
  | kept => exact old found
  | @noted n ask handled _ sends =>
    simp only [noted] at found
    split at found
    · rename_i listens
      rw [Table.get?_insert] at found
      split at found
      · rename_i own
        cases found
        obtain ⟨_, rest, -, queue⟩ := handled?_eq_some handled
        have hask := owned.asker n ask (queue ▸ List.mem_cons_self)
        refine ⟨ask, asked_step hs hask, own.symm, listens, rfl, ?_⟩
        rw [more, sends]
        exact List.mem_append_right _ (List.mem_singleton_self _)
      · exact old found
    · exact old found
  | parted | unsubscribed | forgotten => exact old (Table.get?_of_erase found)
  | answered =>
    simp only at found
    split at found
    · exact old (Table.get?_of_erase found)
    · exact old found
  | ended => cases found

theorem owned_step : t.Owned :=
  ⟨owned.asker_step hs, owned.entry_step hs, owned.route_step hs⟩

end Step

theorem owned_run (run : History step (opened timeout ids) past s) : s.Owned := by
  refine run.invariant ⟨?_, ?_, ?_⟩ owned_step
  · intro n ask queued
    cases queued
  · intro id entry found
    cases found
  · intro id route found
    cases found

/-- Whatever is sent is under an identifier that was taken into use. -/
theorem used_of_sent (run : History step (opened timeout ids) past s) {request : Request}
    (sends : request ∈ sent ⟨s, action⟩) :
    request.id ∈ past.flatMap used ∨ request.id ∈ used ⟨s, action⟩ := by
  obtain ⟨command, handled, sends⟩ := handled_of_sent sends
  obtain ⟨fault, rest, rfl, queue⟩ := handled?_eq_some handled
  have asked : ∀ n ask, command = commandFor n ask → request.id ∈ past.flatMap used := by
    rintro n ask rfl
    have asks := (owned_run run).asker n ask (queue ▸ List.mem_cons_self)
    rw [requested_commandFor] at sends
    split at sends
    · cases sends
    · rw [List.mem_singleton.1 sends]
      obtain nobody | taken := asker_of_run run (List.mem_of_getElem? asks)
      · cases nobody
      · exact taken
  cases command with
  | call request n => exact .inl (asked n (request, false) rfl)
  | listen request n => exact .inl (asked n (request, true) rfl)
  | unsubscribe id =>
    obtain ⟨query, found, rfl⟩ := Option.map_eq_some_iff.1 (Option.mem_toList.1 sends)
    right
    rw [used_unsubscribe queue (by rw [found, Option.isSome_some])]
    exact List.mem_singleton_self _
  | _ => cases sends

/-- Whatever is outstanding is under an identifier that was taken into use. -/
theorem used_of_outstanding (run : History step (opened timeout ids) past s) {id : RequestId}
    (waits : s.router.isOutstanding id = true) : id ∈ past.flatMap used := by
  induction run with
  | start => cases waits
  | next before hs ih =>
    rw [List.flatMap_append, List.mem_append, List.flatMap_singleton]
    obtain early | now := (changes_step hs).outstanding waits
    · exact .inl (ih early)
    · obtain ⟨request, sends, rfl⟩ := List.mem_map.1 now
      exact used_of_sent before sends

end Socket

end Tendermint
