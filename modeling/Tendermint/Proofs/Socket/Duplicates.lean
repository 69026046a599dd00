import Tendermint.Proofs.Socket.Reach

/-!
# Tendermint.Proofs.Socket.Duplicates

Requests under an identifier that is taken, whatever identifiers the callers choose.

* `Orderly`, `orderly_run`: the tables name no caller before its request was handled.
* `Refused`, `refused_step`: what becomes of a caller that got `duplicateId`.
* `duplicates_are_refused`: every duplicate, over every run, and what takes an entry or a route
  away.
-/

namespace Tendermint

namespace Socket

variable {past : List (Moment Socket Action)} {s t : Socket} {action : Action} {timeout : Duration}
  {ids : RequestId.Counter} {n : Nat} {c : Caller}

/-! ## Before a request is handled -/

/-- A caller has not put its command into the queue, or the command waits there. -/
def Asking (s : Socket) (n : Nat) (c : Caller) : Prop :=
  c.stage = .admitted ∨ ∃ ask, commandFor n ask ∈ s.queue

/-- Every caller asks once, and has nothing before its request was handled. -/
structure Orderly (s : Socket) : Prop where
  once : (s.queue.filterMap asker?).Nodup
  held : ∀ n c, s.callers[n]? = some c → c.stage = .admitted → ∀ ask, commandFor n ask ∉ s.queue
  fresh : ∀ n c, s.callers[n]? = some c → s.Asking n c →
    c.answer = .empty ∧ c.holds = false ∧ ¬ Lists s.router n

theorem exists_ask {command : SocketCommand} (asks : asker? command = some n) :
    ∃ ask, command = commandFor n ask := by
  cases command with
  | call request k =>
    cases asks
    exact ⟨(request, false), rfl⟩
  | listen request k =>
    cases asks
    exact ⟨(request, true), rfl⟩
  | _ => cases asks

/-- Only the caller itself puts its request into the queue. -/
theorem asked_by (hs : s.step action = some t) {ask : Request × Bool}
    (queued : commandFor n ask ∈ t.queue) : commandFor n ask ∈ s.queue ∨ action = .submit n := by
  have asks := asker?_commandFor n ask
  obtain before | leaves | ⟨k, c, actor, -, mine⟩ := (requeues_step hs).comes queued
  · exact .inl before
  · simp [leaves, asker?] at asks
  · obtain ⟨own, submits⟩ | ⟨own, -⟩ | ⟨own, -⟩ := handed_cases actor mine
    · rw [own, asker?_commandFor] at asks
      cases asks
      exact .inr submits
    · simp [own, asker?] at asks
    · simp [own, asker?] at asks

theorem once_step (orderly : s.Orderly) (hs : s.step action = some t) :
    (t.queue.filterMap asker?).Nodup := by
  cases Happens.of_step hs with
  | @handled fault command rest _ queue =>
    rw [handle_queue]
    have once := orderly.once
    rw [queue] at once
    exact once.sublist ((List.sublist_cons_self command rest).filterMap asker?)
  | received =>
    rw [receive_eq]
    split
    · rw [withRouter, deliver_eq]
      exact orderly.once
    · exact orderly.once
  | finished =>
    rw [finish_eq, deliver_eq]
    exact .nil
  | asked =>
    have nothing : [SocketCommand.disconnect].filterMap asker? = [] := rfl
    rw [enqueue_eq, List.filterMap_append]
    split
    · simpa using orderly.once
    · rw [nothing, List.append_nil]
      exact orderly.once
  | @acts _ n c _ actor found acts =>
    obtain ⟨d, -, how⟩ := callerStep_acts found acts
    rw [callerStep_queue acts, List.filterMap_append]
    split
    · simpa using orderly.once
    · cases how with
      | submit stage =>
        have asks : [commandFor n c.asked].filterMap asker? = [n] := by simp
        rw [handed, asks, List.nodup_append]
        refine ⟨orderly.once, by simp, ?_⟩
        rintro k mine _ last rfl
        rw [List.mem_singleton.1 last] at mine
        obtain ⟨command, queued, own⟩ := List.mem_filterMap.1 mine
        obtain ⟨ask, rfl⟩ := exists_ask own
        exact orderly.held n c found stage ask queued
      | _ =>
        change (s.queue.filterMap asker? ++ []).Nodup
        rw [List.append_nil]
        exact orderly.once
  | _ => exact orderly.once

/-- Nobody goes back to where it has not asked yet. -/
theorem admitted_before (hs : s.step action = some t) (hc : s.callers[n]? = some c) {d : Caller}
    (hd : t.callers[n]? = some d) (stage : d.stage = .admitted) :
    c.stage = .admitted ∧ action ≠ .submit n := by
  by_cases actor : action.caller? = some n
  · obtain ⟨c', d', hc', hd', acts, -⟩ := own_step hs actor
    cases hc.symm.trans hc'
    cases hd.symm.trans hd'
    cases acts with
    | submit _ => split at stage <;> cases stage
    | resume | expire | abandon => cases stage
    | read | dropStream => exact ⟨stage, nofun⟩
  · obtain ⟨ds, told, -⟩ := others_step hs actor hc
    cases hd.symm.trans told
    rw [Caller.reached_eq] at stage
    refine ⟨stage, ?_⟩
    rintro rfl
    exact actor rfl

theorem held_step (owned : s.Owned) (orderly : s.Orderly) (hs : s.step action = some t) {d : Caller}
    (hd : t.callers[n]? = some d) (stage : d.stage = .admitted) (ask : Request × Bool) :
    commandFor n ask ∉ t.queue := by
  intro queued
  cases hc : s.callers[n]? with
  | none =>
    obtain ⟨_, _, _, rfl, -⟩ := newcomer_step hs hc hd
    obtain ⟨c, found, -⟩ := exists_caller (owned.asker n ask queued)
    cases hc.symm.trans found
  | some c =>
    obtain ⟨admitted, silent⟩ := admitted_before hs hc hd stage
    obtain before | submits := asked_by hs queued
    · exact orderly.held n c hc admitted ask before
    · exact silent submits

/-- A caller that still asks is not named by the step. -/
theorem unnamed_step (orderly : s.Orderly) (hs : s.step action = some t)
    (hc : s.callers[n]? = some c) {d : Caller} (hd : t.callers[n]? = some d)
    (asking : t.Asking n d) (unlisted : ¬ Lists s.router n) : ¬ Named ⟨s, action⟩ n := by
  rintro (lists | ⟨ask, handled⟩ | ⟨rfl, ask, queued⟩)
  · exact unlisted lists
  · obtain ⟨fault, rest, rfl, queue⟩ := handled?_eq_some handled
    obtain admitted | ⟨other, queued⟩ := asking
    · obtain ⟨admitted, -⟩ := admitted_before hs hc hd admitted
      exact orderly.held n c hc admitted ask (queue ▸ List.mem_cons_self)
    · have once := orderly.once
      have left : t.queue = rest := by
        cases Happens.of_step hs with
        | handled _ same =>
          rw [handle_queue]
          exact (List.cons.inj (same.symm.trans queue)).2
        | acts actor => cases actor
      rw [queue, List.filterMap_cons_some (asker?_commandFor n ask), List.nodup_cons] at once
      rw [left] at queued
      exact once.1 (List.mem_filterMap.2 ⟨_, queued, asker?_commandFor n other⟩)
  · obtain admitted | ⟨other, queued⟩ := asking
    · obtain ⟨admitted, -⟩ := admitted_before hs hc hd admitted
      exact orderly.held n c hc admitted ask queued
    · rw [(finish_step hs).2] at queued
      cases queued

theorem fresh_step (owned : s.Owned) (orderly : s.Orderly) (hs : s.step action = some t) {d : Caller}
    (hd : t.callers[n]? = some d) (asking : t.Asking n d) :
    d.answer = .empty ∧ d.holds = false ∧ ¬ Lists t.router n := by
  cases hc : s.callers[n]? with
  | none =>
    -- A newcomer's number is the next one, and the tables name only numbers that are given out.
    obtain ⟨_, _, _, rfl, -, -, rfl⟩ := newcomer_step hs hc hd
    refine ⟨rfl, rfl, fun lists => ?_⟩
    have small := owned.listed lists
    have large := List.getElem?_eq_none_iff.1 hc
    omega
  | some c =>
    have before : s.Asking n c := by
      obtain admitted | ⟨ask, queued⟩ := asking
      · exact .inl (admitted_before hs hc hd admitted).1
      · obtain queued | rfl := asked_by hs queued
        · exact .inr ⟨ask, queued⟩
        · obtain ⟨c', d', hc', -, acts, -⟩ := own_step hs rfl
          cases hc.symm.trans hc'
          cases acts with
          | submit stage => exact .inl stage
    obtain ⟨empty, apart, unlisted⟩ := orderly.fresh n c hc before
    have unnamed := unnamed_step orderly hs hc hd asking unlisted
    have idle : ∀ ask, handled? ⟨s, action⟩ ≠ some (commandFor n ask) :=
      fun ask handled => unnamed (.inr (.inl ⟨ask, handled⟩))
    have own : d.answer = .empty ∧ d.holds = false := by
      by_cases actor : action.caller? = some n
      · obtain ⟨c', d', hc', hd', acts, -⟩ := own_step hs actor
        cases hc.symm.trans hc'
        cases hd.symm.trans hd'
        cases acts with
        | submit =>
          split
          · exact ⟨empty, by simp [Caller.resolve, Router.isFailure]⟩
          · exact ⟨empty, apart⟩
        | resume _ found => simp [empty, outcome?] at found
        | expire => exact ⟨empty, by simp [Caller.resolve, Router.isFailure]⟩
        | abandon => exact ⟨empty, apart⟩
        | read holds | dropStream holds => cases apart.symm.trans holds
      · obtain ⟨ds, told, silent⟩ := others_step hs actor hc
        rw [silent unnamed] at told
        cases hd.symm.trans told
        exact ⟨empty, apart⟩
    exact ⟨own.1, own.2, (changes_step hs).unlisted unlisted idle⟩

theorem orderly_run (run : History step (opened timeout ids) past s) : s.Orderly := by
  induction run with
  | start =>
    refine ⟨.nil, ?_, ?_⟩
    · intro n c found
      simp [opened] at found
    · intro n c found
      simp [opened] at found
  | next run hs ih =>
    have owned := owned_run run
    exact ⟨once_step ih hs, fun n d => held_step owned ih hs, fun n d => fresh_step owned ih hs⟩

/-! ## After a refusal -/

/-- A caller whose request was refused. -/
structure Refused (n : Nat) (ask : Request × Bool) (s : Socket) : Prop where
  caller : ∃ c, s.callers[n]? = some c ∧ c.asked = ask ∧ c.stage ≠ .admitted ∧ c.holds = false ∧
    (c.awaits = true → c.answer = .filled (.error (.duplicateId ask.1.id)))
  unlisted : ¬ Lists s.router n
  silent : ∀ other, commandFor n other ∉ s.queue

variable {ask : Request × Bool}

theorem refused_step (refused : s.Refused n ask) (hs : s.step action = some t) :
    t.Refused n ask := by
  obtain ⟨⟨c, hc, asked, stage, apart, answered⟩, unlisted, silent⟩ := refused
  have unnamed : ¬ Named ⟨s, action⟩ n := by
    rintro (lists | ⟨other, handled⟩ | ⟨-, other, queued⟩)
    · exact unlisted lists
    · obtain ⟨_, _, -, queue⟩ := handled?_eq_some handled
      exact silent other (queue ▸ List.mem_cons_self)
    · exact silent other queued
  have submits : action ≠ .submit n := by
    rintro rfl
    obtain ⟨c', d, hc', -, acts, -⟩ := own_step hs rfl
    cases hc.symm.trans hc'
    cases acts with
    | submit admitted => exact stage admitted
  refine ⟨?_, ?_, ?_⟩
  · by_cases actor : action.caller? = some n
    · obtain ⟨c', d, hc', hd, acts, -⟩ := own_step hs actor
      cases hc.symm.trans hc'
      refine ⟨d, hd, ?_⟩
      cases acts with
      | submit admitted => exact absurd admitted stage
      | resume waits found =>
        simp only [answered waits, outcome?, Option.some.injEq] at found
        subst found
        exact ⟨asked, by simp [Caller.resolve], by simp [Caller.resolve, Router.isFailure],
          by simp [Caller.resolve, Caller.awaits]⟩
      | expire =>
        exact ⟨asked, by simp [Caller.resolve], by simp [Caller.resolve, Router.isFailure],
          by simp [Caller.resolve, Caller.awaits]⟩
      | abandon => exact ⟨asked, by rintro ⟨⟩, apart, by rintro ⟨⟩⟩
      | read holds | dropStream holds => cases apart.symm.trans holds
    · obtain ⟨ds, told, none_heard⟩ := others_step hs actor hc
      rw [none_heard unnamed] at told
      exact ⟨c, told, asked, stage, apart, answered⟩
  · exact (changes_step hs).unlisted unlisted fun other handled => unnamed (.inr (.inl ⟨other, handled⟩))
  · intro other queued
    obtain before | submitted := asked_by hs queued
    · exact silent other before
    · exact submits submitted

/-- A refusal changes nothing but the caller. -/
theorem refuse_frame (error : RpcError) (n : Nat) (s : Socket) :
    (s.refuse error n).router = s.router ∧ (s.refuse error n).written = s.written ∧
      (s.refuse error n).phase = s.phase ∧ (s.refuse error n).queue = s.queue ∧
      ∀ k, k ≠ n → (s.refuse error n).callers[k]? = s.callers[k]? := by
  have same : s.refuse error n = { s with callers := (s.refuse error n).callers } := deliver_eq _ _
  refine ⟨by rw [same], by rw [same], by rw [same], by rw [same], ?_⟩
  intro k other
  rw [refuse, getElem?_deliver]
  cases s.callers[k]? <;> simp [Delivery.caller, Ne.symm other]

/-- The caller has the refusal, if it waits and has no answer yet. -/
theorem refuse_caller (error : RpcError) (hc : s.callers[n]? = some c) (empty : c.answer = .empty) :
    ∃ d, (s.refuse error n).callers[n]? = some d ∧ d.asked = c.asked ∧ d.stage = c.stage ∧
      d.holds = c.holds ∧ (d.awaits = true → d.answer = .filled (.error error)) := by
  have told : (s.refuse error n).callers[n]? =
      some (c.answered (.filled (.error error))).detached := by
    rw [refuse, getElem?_deliver, hc]
    simp [Delivery.caller, Delivery.reach]
  refine ⟨_, told, ?_, ?_, ?_, ?_⟩
  · rw [Caller.answered_eq]
    rfl
  · rw [Caller.answered_eq]
    rfl
  · rw [Caller.answered_eq]
    rfl
  · intro waits
    rw [Caller.answered_eq] at waits
    have waited : c.awaits = true := waits
    simp [Caller.answered, Caller.detached, empty, waited]

/-- A request under an identifier that is taken changes nothing but its caller, which gets
`duplicateId`. -/
theorem refused_of_taken (owned : s.Owned) (orderly : s.Orderly) {fault : Option NetworkFault}
    {rest : List SocketCommand} (queue : s.queue = commandFor n ask :: rest)
    (taken : s.router.isOutstanding ask.1.id = true) (hs : s.step (.handleNext fault) = some t) :
    (t.router = s.router ∧ t.written = s.written ∧ t.phase = s.phase ∧ t.queue = rest ∧
      ∀ k, k ≠ n → t.callers[k]? = s.callers[k]?) ∧ t.Refused n ask := by
  obtain rfl : t = { s with queue := rest }.refuse (.duplicateId ask.1.id) n := by
    cases Happens.of_step hs with
    | handled _ same =>
      obtain ⟨rfl, rfl⟩ := List.cons.inj (same.symm.trans queue)
      exact handle_taken (s := { s with queue := _ }) fault taken
    | acts actor => cases actor
  have queued : commandFor n ask ∈ s.queue := queue ▸ List.mem_cons_self
  obtain ⟨c, hc, asked⟩ := exists_caller (owned.asker n ask queued)
  obtain ⟨empty, apart, unlisted⟩ := orderly.fresh n c hc (.inr ⟨ask, queued⟩)
  have frame := refuse_frame (.duplicateId ask.1.id) n { s with queue := rest }
  obtain ⟨d, told, same, stage, holds, answered⟩ :=
    refuse_caller (s := { s with queue := rest }) (.duplicateId ask.1.id) hc empty
  refine ⟨frame, ⟨d, told, same.trans asked, ?_, holds.trans apart, answered⟩, ?_, ?_⟩
  · intro admitted
    exact orderly.held n c hc (stage ▸ admitted) ask queued
  · rw [frame.1]
    exact unlisted
  · intro other still
    rw [frame.2.2.2.1] at still
    have once := orderly.once
    rw [queue, List.filterMap_cons_some (asker?_commandFor n ask), List.nodup_cons] at once
    exact once.1 (List.mem_filterMap.2 ⟨_, still, asker?_commandFor n other⟩)

/-- Whatever identifiers the callers choose: a request that the task takes while its identifier has
an entry or a route is refused with `duplicateId`. Nothing is written for it, and only its caller
is changed, which gets that answer if it waits and never holds a stream. Whatever this caller does
later changes nothing but the caller, and puts into the queue at most a `forget` of the identifier,
when its timer expires. An entry goes with its answer, and a route with a refusal, with an
`unsubscribe` or with the end of the task. Both go also with a `forget` of their identifier, which
any caller under it sends when its timer expires; and an entry makes way for an `unsubscribe`
request under the next identifier. -/
theorem duplicates_are_refused (run : History step (opened timeout ids) past s) :
    (∀ (n : Nat) (ask : Request × Bool) (rest : List SocketCommand) (fault : Option NetworkFault),
      s.phase = .running → s.queue = commandFor n ask :: rest →
      s.router.isOutstanding ask.1.id = true →
      ∃ t, s.step (.handleNext fault) = some t ∧
        (t.router = s.router ∧ t.written = s.written ∧ t.phase = s.phase ∧ t.queue = rest ∧
          ∀ k, k ≠ n → t.callers[k]? = s.callers[k]?) ∧
        ∀ later u, History step t later u →
          (∃ c, u.callers[n]? = some c ∧ c.asked = ask ∧ c.holds = false ∧
            (c.awaits = true → c.answer = .filled (.error (.duplicateId ask.1.id)))) ∧
          ∀ action v, action.caller? = some n → u.step action = some v →
            v.router = u.router ∧ v.written = u.written ∧
            (∀ k, k ≠ n → v.callers[k]? = u.callers[k]?) ∧
            (v.queue = u.queue ∨
              action = .expire n ∧ v.queue = u.queue ++ [.forget ask.1.id])) ∧
    (∀ action t id, s.step action = some t →
      (∀ entry, s.router.pending.get? id = some entry →
        t.router.pending.get? id = some entry ∨
        (∃ json, incoming? ⟨s, action⟩ = some (id, json)) ∨
        handled? ⟨s, action⟩ = some (.forget id) ∨
        (∃ other, handled? ⟨s, action⟩ = some (.unsubscribe other) ∧
          (id = s.ids.take.1 ∨ ∃ sent, entry = .ignored sent)) ∨
        action = .finish) ∧
      ∀ route, s.router.routes.get? id = some route →
        t.router.routes.get? id = some route ∨
        (∃ json, incoming? ⟨s, action⟩ = some (id, json) ∧
          Router.isFailure (Reply.outcomeOf (Reply.ofJson json)) = true) ∨
        handled? ⟨s, action⟩ = some (.forget id) ∨ handled? ⟨s, action⟩ = some (.unsubscribe id) ∨
        action = .finish) ∧
    ∀ m ∈ past, ∀ id,
      (handled? m = some (.forget id) → ∃ e ∈ past, ∃ k c, e.action = .expire k ∧
        e.before.callers[k]? = some c ∧ c.request.id = id) ∧
      (handled? m = some (.unsubscribe id) → ∃ e ∈ past, ∃ k c, e.action = .dropStream k ∧
        e.before.callers[k]? = some c ∧ c.request.id = id) := by
  have owned := owned_run run
  have orderly := orderly_run run
  refine ⟨?_, ?_, ?_⟩
  · intro n ask rest fault running queue taken
    have possible : s.step (.handleNext fault) =
        some ({ s with queue := rest }.handle fault (commandFor n ask)) := by
      simp [step, Action.caller?, taskStep, running, queue]
    obtain ⟨same, refused⟩ := refused_of_taken owned orderly queue taken possible
    refine ⟨_, possible, same, ?_⟩
    intro later u rest_run
    have still : u.Refused n ask := rest_run.invariant refused refused_step
    obtain ⟨c, hc, asked, stage, apart, answered⟩ := still.caller
    refine ⟨⟨c, hc, asked, apart, answered⟩, ?_⟩
    intro action v actor hs
    obtain ⟨c', d, hc', hd, acts, others, router, written, handed_in⟩ := own_step hs actor
    cases hc.symm.trans hc'
    refine ⟨router, written, others, ?_⟩
    have name : c.request.id = ask.1.id := by rw [← asked]; rfl
    cases acts with
    | submit admitted => exact absurd admitted stage
    | resume | abandon => exact .inl (by simp [handed_in, handed])
    | expire =>
      cases actor
      rw [handed_in]
      split
      · exact .inl (List.append_nil _)
      · exact .inr ⟨rfl, by rw [handed, name]⟩
    | read holds | dropStream holds => cases apart.symm.trans holds
  · intro action t id hs
    exact ⟨fun entry => (changes_step hs).entry_kept, fun route => (changes_step hs).route_kept⟩
  · intro m hm id
    constructor
    · intro handled
      obtain ⟨e, he, k, c, actor, found, mine⟩ := handed_of_handled run hm handled (by rintro ⟨⟩)
      obtain ⟨own, -⟩ | ⟨own, expires⟩ | ⟨own, -⟩ := handed_cases actor mine
      · have asks := asker?_commandFor k c.asked
        simp [← own, asker?] at asks
      · exact ⟨e, he, k, c, expires, found, (SocketCommand.forget.inj own).symm⟩
      · cases own
    · intro handled
      obtain ⟨e, he, k, c, actor, found, mine⟩ := handed_of_handled run hm handled (by rintro ⟨⟩)
      obtain ⟨own, -⟩ | ⟨own, -⟩ | ⟨own, drops⟩ := handed_cases actor mine
      · have asks := asker?_commandFor k c.asked
        simp [← own, asker?] at asks
      · cases own
      · exact ⟨e, he, k, c, drops, found, (SocketCommand.unsubscribe.inj own).symm⟩

/-- A subscription that is acknowledged, and then a call under its identifier, which is in the
queue. -/
def duplicate : List Action :=
  [.begin true ⟨.text "5", "subscribe", Params.subscription ⟨"tm.event='NewBlock'"⟩⟩, .submit 0,
    .handleNext none, .receive (.text "\x7b\"id\":\"5\",\"result\":\x7b\x7d\x7d"), .resume 0,
    .begin false ⟨.text "5", "status", []⟩, .submit 1]

theorem duplicate_is_refused :
    ∃ s t c, (opened ⟨10⟩ ⟨5⟩).run duplicate = some s ∧ s.router.isOutstanding (.text "5") = true ∧
      s.step (.handleNext none) = some t ∧ t.router = s.router ∧ t.written = s.written ∧
      t.callers[0]? = s.callers[0]? ∧ t.callers[1]? = some c ∧
      c.answer = .filled (.error (.duplicateId (.text "5"))) := by
  have possible : ((opened ⟨10⟩ ⟨5⟩).run duplicate).isSome = true := rfl
  obtain ⟨s, run⟩ := Option.isSome_iff_exists.1 possible
  have state : (((opened ⟨10⟩ ⟨5⟩).run duplicate).map fun s =>
      (s.phase, s.queue, s.router.isOutstanding (.text "5"),
        (s.step (.handleNext none)).bind fun t => t.callers[1]?.map Caller.awaits)) =
      some (.running, [.call ⟨.text "5", "status", []⟩ 1], true, some true) := by decide +kernel
  rw [run] at state
  simp only [Option.map_some, Option.some.injEq, Prod.mk.injEq] at state
  obtain ⟨running, queue, taken, waits⟩ := state
  obtain ⟨refused, -⟩ := duplicates_are_refused (history_of_run run)
  obtain ⟨t, hs, ⟨router, written, -, -, others⟩, after⟩ :=
    refused 1 (⟨.text "5", "status", []⟩, false) [] none running queue taken
  obtain ⟨⟨c, hc, -, -, answered⟩, -⟩ := after [] t .start
  rw [hs, Option.bind_some, hc, Option.map_some] at waits
  exact ⟨s, t, c, run, taken, hs, router, written, others 0 (by decide), hc,
    answered (Option.some.inj waits)⟩

/-- If the timer of the call expires before its command is taken, the call is refused, and then its
`forget` is carried out. The subscriber still holds its stream and the connection is open, but the
route has been removed and no event comes. -/
theorem late_duplicate_ends_stream :
    ∃ s t, (opened ⟨10⟩ ⟨5⟩).run (duplicate ++ [.pass ⟨10⟩, .expire 1]) = some s ∧
      s.queue = [.call ⟨.text "5", "status", []⟩ 1, .forget (.text "5")] ∧
      s.router.routes.contains (.text "5") = true ∧
      s.run [.handleNext none, .handleNext none] = some t ∧ t.phase = .running ∧ t.queue = [] ∧
      t.written.map Request.method = ["subscribe"] ∧
      t.router.routes.contains (.text "5") = false ∧
      (t.callers.map fun c => (c.request.id, c.holds, c.feed.attached, c.feed.unread.length)) =
        [(.text "5", true, false, 0), (.text "5", false, false, 0)] := by
  have possible : ((opened ⟨10⟩ ⟨5⟩).run (duplicate ++ [.pass ⟨10⟩, .expire 1])).isSome = true := rfl
  obtain ⟨s, run⟩ := Option.isSome_iff_exists.1 possible
  have last : (((opened ⟨10⟩ ⟨5⟩).run (duplicate ++ [.pass ⟨10⟩, .expire 1])).bind fun s =>
      s.run [.handleNext none, .handleNext none]).isSome = true := rfl
  rw [run, Option.bind_some] at last
  obtain ⟨t, rest⟩ := Option.isSome_iff_exists.1 last
  have state : (((opened ⟨10⟩ ⟨5⟩).run (duplicate ++ [.pass ⟨10⟩, .expire 1])).bind fun s =>
      (s.run [.handleNext none, .handleNext none]).map fun t =>
        (s.queue, s.router.routes.contains (.text "5"), t.phase, t.queue,
          t.written.map Request.method, t.router.routes.contains (.text "5"),
          t.callers.map fun c => (c.request.id, c.holds, c.feed.attached, c.feed.unread.length))) =
      some ([.call ⟨.text "5", "status", []⟩ 1, .forget (.text "5")], true, .running, [],
        ["subscribe"], false, [(.text "5", true, false, 0), (.text "5", false, false, 0)]) := rfl
  rw [run, Option.bind_some, rest] at state
  simp only [Option.map_some, Option.some.injEq, Prod.mk.injEq] at state
  obtain ⟨queue, routed, running, empty, written, gone, callers⟩ := state
  exact ⟨s, t, run, queue, routed, rest, running, empty, written, gone, callers⟩

end Socket

end Tendermint
