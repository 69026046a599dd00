import Tendermint.Proofs.Socket.Correlation
import Tendermint.Proofs.Socket.Tables

/-!
# Tendermint.Proofs.Socket.Coherence

How the two tables of the task go together. A subscription has an entry and a route from the moment
its request is sent, its acknowledgement takes the entry away, and its end or its failure the route.

* `Life.Paired`, `Lived.paired`: the entry and the route of one request.
* `Lived.acknowledged`: a route that is left alone was acknowledged.
* `Life.Spent`, `unreleased`: what a subscription was ended for never gets a route again.
* `sent_new`: whatever is sent is under an identifier with neither entry nor route.
* `tables_are_coherent`: both tables, over every run.
-/

namespace Tendermint

namespace Life

variable {past : List (Moment Socket Socket.Action)} {m : Moment Socket Socket.Action}
  {number : Nat} {l l' : Life} {share : Share}

/-- How the entry, the route and the queued commands of a request go together. -/
structure Paired (l : Life) : Prop where
  coupled : l.pending = true → l.routed = l.caller.listens
  /-- `unsubscribe` is the last command, and finds the route. -/
  parting : .unsubscribe ∈ l.errands →
    l.errands = [.unsubscribe] ∧ l.routed = true ∧ ∃ success, l.caller.answer = .filled (.ok success)

/-- A caller that holds a stream has no command in the queue. -/
theorem Sound.idle (sound : l.Sound) (holds : l.caller.holds = true) : l.errands = [] := by
  obtain ⟨_, success, _, filled⟩ := sound.holds holds
  rw [List.eq_nil_iff_forall_not_mem]
  intro errand mine
  cases errand with
  | ask =>
    obtain ⟨-, -, -, empty, -⟩ := sound.untouched (.inr mine)
    cases empty.symm.trans filled
  | unsubscribe =>
    obtain ⟨-, apart⟩ := sound.parted (.inl mine)
    cases apart.symm.trans holds
  | forget =>
    obtain ⟨-, apart⟩ := sound.parted (.inr mine)
    cases apart.symm.trans holds

theorem coupled_step (sound : l.Sound) (paired : l.Paired) (step : l.Step m number share l') :
    l'.pending = true → l'.routed = l'.caller.listens := by
  have coupled := paired.coupled
  have request := (request_step step).2
  cases step with
  | unsubscribed _ _ next =>
    -- The stream was handed over on the answer, and the answer took the entry away.
    obtain ⟨-, -, success, filled⟩ := paired.parting (by simp [next])
    have unanswered := sound.unanswered
    grind
  | _ => grind

theorem parting_step (sound : l.Sound) (paired : l.Paired) (step : l.Step m number share l') :
    .unsubscribe ∈ l'.errands →
      l'.errands = [.unsubscribe] ∧ l'.routed = true ∧
        ∃ success, l'.caller.answer = .filled (.ok success) := by
  have parting := paired.parting
  have unanswered := sound.unanswered
  have parted := sound.parted
  cases step with
  | submitted stage _ =>
    have none_yet := sound.held (.inl stage)
    grind
  | dropped holding =>
    have idle := sound.idle holding
    have routed := sound.route (.inl holding)
    obtain ⟨_, success, _, filled⟩ := sound.holds holding
    grind
  | _ => grind

theorem paired_step (sound : l.Sound) (paired : l.Paired) (step : l.Step m number share l') :
    l'.Paired :=
  ⟨coupled_step sound paired step, parting_step sound paired step⟩

/-- One frame, and no other, came in under an identifier while its request waited, and it was a
success. -/
def Acknowledged (past : List (Moment Socket Socket.Action)) (id : RequestId) : Prop :=
  ∃ json success, past.flatMap (Socket.framesFor id) = [json] ∧
    Reply.outcomeOf (Reply.ofJson json) = .ok success

theorem acknowledged_step (sound : l.Sound) (told : Told past number l)
    (step : l.Step m number share l') (shared : Socket.share number l.caller.request.id m = share)
    (before : l.routed = true → l.pending = false → Acknowledged past l.caller.request.id)
    (routed : l'.routed = true) (answered : l'.pending = false) :
    Acknowledged (past ++ [m]) l'.caller.request.id := by
  have now : Socket.framesFor l.caller.request.id m = share.frames := congrArg Share.frames shared
  have frames : (past ++ [m]).flatMap (Socket.framesFor l.caller.request.id) =
      past.flatMap (Socket.framesFor l.caller.request.id) ++ share.frames := by
    rw [List.flatMap_append, List.flatMap_singleton, now]
  rw [(request_step step).1]
  have same : share.frames = [] → l.routed = true → l.pending = false →
      Acknowledged (past ++ [m]) l.caller.request.id := by
    intro quiet was_routed was_answered
    obtain ⟨json, success, one, content⟩ := before was_routed was_answered
    exact ⟨json, success, by rw [frames, one, quiet]; rfl, content⟩
  cases step with
  | @answered json _ waits _ kept =>
    obtain ⟨listens, -⟩ := sound.attached routed
    have none_yet := told.silent (.inr (.inr waits))
    cases content : Reply.outcomeOf (Reply.ofJson json) with
    | ok success => exact ⟨json, success, by rw [frames, none_yet]; rfl, content⟩
    | error error =>
      have succeeded := kept listens
      rw [content] at succeeded
      cases succeeded
  | sent => cases answered
  | unsubscribed | forgotten | rejected | finished => cases routed
  | _ => exact same rfl routed answered

/-- Its request may still be sent. -/
def Asks (l : Life) : Prop := l.caller.stage = .admitted ∨ .ask ∈ l.errands

/-- A request that was sent is not sent again. -/
theorem asks_step (step : l.Step m number share l') (asks : l'.Asks) : l.Asks := by
  cases step with
  | submitted stage _ => exact .inl stage
  | finished =>
    obtain admitted | queued := asks
    · exact .inl ((closed_stage _ _ _ _).symm.trans admitted)
    · cases queued
  | _ => grind [Asks]

/-- Its request is not sent any more, and there is no route under its identifier. -/
def Spent (id : RequestId) (l : Life) : Prop :=
  l.caller.request.id = id ∧ l.routed = false ∧ ¬ l.Asks

theorem spent_step {id : RequestId} (step : l.Step m number share l') (spent : l.Spent id) :
    l'.Spent id := by
  obtain ⟨name, routed, idle⟩ := spent
  refine ⟨by rw [(request_step step).1, name], ?_, fun asks => idle (asks_step step asks)⟩
  cases step with
  | sent _ next => exact absurd (.inr (by simp [next])) idle
  | unsubscribed | forgotten | rejected | finished => rfl
  | _ => exact routed

end Life

section Lived

variable {number : Nat} {past : List (Moment Socket Socket.Action)} {l : Life}

theorem Lived.paired (lived : Lived number past l) : l.Paired := by
  induction lived with
  | born =>
    refine ⟨?_, ?_⟩
    · rintro ⟨⟩
    · rintro ⟨⟩
  | next lived step _ ih => exact Life.paired_step lived.sound ih step

/-- A route without an entry is that of a subscription that was acknowledged. -/
theorem Lived.acknowledged (lived : Lived number past l) (routed : l.routed = true)
    (answered : l.pending = false) : Life.Acknowledged past l.caller.request.id := by
  induction lived with
  | born => cases routed
  | next lived step shared ih =>
    exact Life.acknowledged_step lived.sound lived.told step shared ih routed answered

end Lived

namespace Socket

variable {past : List (Moment Socket Action)} {s t : Socket} {timeout : Duration}
  {ids : RequestId.Counter}

/-- An `unsubscribe` or a `forget` in the queue is a command of the caller under its identifier. -/
theorem Ordered.owner (ordered : Ordered past s) {command : SocketCommand} {id : RequestId}
    (queued : command ∈ s.queue) (ends : command = .unsubscribe id ∨ command = .forget id) :
    ∃ (k : Nat) (c : Caller), s.callers[k]? = some c ∧ c.request.id = id := by
  obtain rfl | ⟨n, ask, hask, own⟩ := ordered.queued command queued
  · simp at ends
  obtain ⟨c, hc, rfl⟩ := exists_caller hask
  refine ⟨n, c, hc, ?_⟩
  obtain rfl | rfl | rfl := own
  · have asks := asker?_commandFor n c.asked
    obtain ends | ends := ends <;> simp [ends, asker?] at asks
  · simpa [Caller.asked] using ends
  · simpa [Caller.asked] using ends

/-- Once an `unsubscribe` or a `forget` was handled there is never a route under its identifier
again. -/
theorem unreleased (run : History step (opened timeout ids) past s) (distinct : Distinct past)
    {id : RequestId} (routed : s.router.routes.contains id = true) :
    ∀ m ∈ past, handled? m ≠ some (.unsubscribe id) ∧ handled? m ≠ some (.forget id) := by
  intro m hm
  rw [← not_or]
  intro handled
  obtain ⟨before, later, rfl⟩ := List.append_of_mem hm
  obtain ⟨v, run_before, hs, rest⟩ := run.split_at
  have all := distinct.of_cons
  obtain ⟨ordered, -, lives⟩ := lived_run run_before all.of_append.of_append
  obtain ⟨command, head, ends⟩ : ∃ command, handled? m = some command ∧
      (command = .unsubscribe id ∨ command = .forget id) := by
    obtain unsubscribes | forgets := handled
    · exact ⟨_, unsubscribes, .inl rfl⟩
    · exact ⟨_, forgets, .inr rfl⟩
  obtain ⟨fault, tail, -, queue⟩ := handled?_eq_some head
  obtain ⟨k, c, hc, rfl⟩ := ordered.owner (queue ▸ List.mem_cons_self) ends
  have sound := (lives k c hc).sound
  have errands : ∃ errand rest, (m.before.life k c).errands = errand :: rest ∧ errand ≠ .ask := by
    obtain rfl | rfl := ends <;> simp [life, queue, errand?]
  obtain ⟨errand, others, errands, other⟩ := errands
  -- A caller asks before all else that it has to say.
  have silent : ¬ (m.before.life k c).Asks := by
    rintro (admitted | asks)
    · cases errands.symm.trans (sound.held (.inl admitted))
    · have once := sound.once
      rw [errands, List.tail_cons] at once
      simp [errands, Ne.symm other, once] at asks
  obtain ⟨d, hd, step⟩ := goesOn_step ordered all.of_append (fun n b hb => (lives n b hb).sound) hc hs
  have request : d.request = c.request := (Life.request_step step).1
  have spent : (v.life k d).Spent c.request.id := by
    refine ⟨congrArg Request.id request, ?_, fun asks => silent (Life.asks_step step asks)⟩
    simp [life, request, Table.contains, released hs handled]
  obtain ⟨e, he, name, unrouted, -⟩ := lives_on (.next run_before hs) Life.spent_step hd spent rest all
  rw [← name] at routed
  cases routed.symm.trans unrouted

/-- Whatever is sent is under an identifier that has neither an entry nor a route. -/
theorem sent_new (ordered : Ordered past s) {action : Action}
    (distinct : Distinct (past ++ [⟨s, action⟩])) {request : Request}
    (sends : request ∈ sent ⟨s, action⟩) : s.router.isOutstanding request.id = false := by
  obtain ⟨command, handled, sends⟩ := handled_of_sent sends
  cases command with
  | call asked n | listen asked n =>
    simp only [requested] at sends
    split at sends
    · cases sends
    · rename_i free
      rw [List.mem_singleton.1 sends]
      simpa using free
  | unsubscribe id =>
    obtain ⟨fault, rest, rfl, queue⟩ := handled?_eq_some handled
    obtain ⟨query, found, rfl⟩ := Option.map_eq_some_iff.1 (Option.mem_toList.1 sends)
    exact ordered.free (ordered.fresh_unsubscribe distinct queue found)
  | _ => cases sends

/-- Over a run that uses no identifier twice, as none out of one row does, a subscription that waits
for its acknowledgement has a route, and nothing else that waits has one. A route with nothing that
waits is that of a listener whose subscription was acknowledged, by one frame and with success, and
neither ended nor forgotten. A step puts something into a table only for a request that it sends,
and then under an identifier that has nothing in either; everything else stays or goes. So nobody
loses the place of an answer before the end of the task. -/
theorem tables_are_coherent (run : History step (opened timeout ids) past s)
    (distinct : Distinct past) :
    (∀ id n, s.router.pending.get? id = some (.subscribe n) →
      ∃ route, s.router.routes.get? id = some route ∧ route.caller = n) ∧
    (∀ id entry, s.router.pending.get? id = some entry → (∀ n, entry ≠ .subscribe n) →
      s.router.routes.get? id = none) ∧
    (∀ id route, s.router.routes.get? id = some route → s.router.pending.get? id = none →
      (∃ caller, s.callers[route.caller]? = some caller ∧ caller.request.id = id ∧
        caller.listens = true) ∧
      (∃ json success, past.flatMap (framesFor id) = [json] ∧
        Reply.outcomeOf (Reply.ofJson json) = .ok success) ∧
      ∀ m ∈ past, handled? m ≠ some (.unsubscribe id) ∧ handled? m ≠ some (.forget id)) ∧
    (∀ action t, s.step action = some t → Distinct (past ++ [⟨s, action⟩]) →
      (∀ request ∈ sent ⟨s, action⟩, s.router.pending.get? request.id = none ∧
        s.router.routes.get? request.id = none) ∧
      ∀ id, id ∉ (sent ⟨s, action⟩).map Request.id →
        (t.router.pending.get? id = none ∨ t.router.pending.get? id = s.router.pending.get? id) ∧
        (t.router.routes.get? id = none ∨ t.router.routes.get? id = s.router.routes.get? id)) ∧
    ∀ (number : Nat) (caller : Caller), s.callers[number]? = some caller →
      caller.answer = .abandoned → s.phase = .finished := by
  obtain ⟨ordered, -, lives⟩ := lived_run run distinct
  refine ⟨?_, ?_, ?_, ?_, ?_⟩
  · intro id n found
    obtain ⟨k, ask, hask, rfl, entry⟩ | ⟨⟨_, entry⟩, -⟩ := ordered.pending id _ found
    · rw [asked, List.getElem?_map] at hask
      obtain ⟨c, hc, rfl⟩ := Option.map_eq_some_iff.1 hask
      obtain ⟨rfl, listens⟩ := entryFor_eq_subscribe.1 entry.symm
      have waits : (s.life k c).pending = true := by
        simp [life, Table.contains, show s.router.pending.get? c.request.id = _ from found]
      have routed := ((lives k c hc).paired.coupled waits).trans listens
      obtain ⟨route, hr⟩ := Option.isSome_iff_exists.1 routed
      exact ⟨route, hr, (ordered.own_route hc hr).1⟩
    · cases entry
  · intro id entry found other
    by_contra routed
    obtain ⟨route, hr⟩ := Option.ne_none_iff_exists'.1 routed
    obtain ⟨ask, hask, rfl, listens⟩ := ordered.routes id route hr
    obtain ⟨c, hc, rfl⟩ := exists_caller hask
    rw [ordered.own_entry hc found, entryFor, if_pos listens] at other
    exact other _ rfl
  · intro id route hr answered
    obtain ⟨ask, hask, rfl, listens⟩ := ordered.routes id route hr
    obtain ⟨c, hc, rfl⟩ := exists_caller hask
    have routed : s.router.routes.contains c.request.id = true := Option.isSome_iff_exists.2 ⟨route, hr⟩
    have settled : (s.life route.caller c).pending = false := by
      simp [life, Table.contains, show s.router.pending.get? c.request.id = _ from answered]
    exact ⟨⟨c, hc, rfl, listens⟩, (lives _ c hc).acknowledged routed settled,
      unreleased run distinct routed⟩
  · intro action t hs more
    have changes := changes_step hs
    refine ⟨fun request sends => isOutstanding_eq_false.1 (sent_new ordered more sends), ?_⟩
    intro id unsent
    constructor
    · obtain gone | same | sends := changes.pending id
      · exact .inl gone
      · exact .inr same
      · exact absurd sends unsent
    · obtain gone | same | sends := changes.routes id
      · exact .inl gone
      · exact .inr same
      · exact absurd sends unsent
  · intro number caller found
    exact (lives number caller found).sound.abandoned

/-- Three subscriptions. The first is acknowledged, the second waits, and the third is acknowledged
and its stream dropped, so that an `unsubscribe` request waits for its answer as well. -/
def subscriptions : List Action :=
  [.beginNext true "subscribe" (Params.subscription ⟨"tm.event='Tx'"⟩),
    .beginNext true "subscribe" (Params.subscription ⟨"tm.event='NewBlock'"⟩),
    .beginNext true "subscribe" (Params.subscription ⟨"tm.event='Vote'"⟩),
    .submit 0, .submit 1, .submit 2, .handleNext none, .handleNext none, .handleNext none,
    .receive (.text "\x7b\"id\":\"5\",\"result\":\x7b\x7d\x7d"),
    .receive (.text "\x7b\"id\":\"7\",\"result\":\x7b\x7d\x7d"), .resume 0, .resume 2,
    .dropStream 2, .handleNext none]

theorem subscriptions_are_coherent :
    ∃ s, (opened ⟨10⟩ ⟨5⟩).run subscriptions = some s ∧
      (∃ route, s.router.routes.get? (.text "6") = some route ∧ route.caller = 1) ∧
      s.router.pending.get? (.text "8") = some (.ignored ⟨0⟩) ∧
      s.router.routes.get? (.text "8") = none ∧
      s.router.pending.get? (.text "5") = none ∧
      ∃ json success,
        (moments step subscriptions (opened ⟨10⟩ ⟨5⟩)).flatMap (framesFor (.text "5")) = [json] ∧
          Reply.outcomeOf (Reply.ofJson json) = .ok success := by
  have possible : ((opened ⟨10⟩ ⟨5⟩).run subscriptions).isSome = true := rfl
  obtain ⟨s, run⟩ := Option.isSome_iff_exists.1 possible
  have tables : (((opened ⟨10⟩ ⟨5⟩).run subscriptions).map fun s =>
      (s.router.pending.get? (.text "6"), s.router.pending.get? (.text "8"),
        s.router.pending.get? (.text "5"), s.router.routes.get? (.text "5"))) =
      some (some (.subscribe 1), some (.ignored ⟨0⟩), none, some ⟨some "tm.event='Tx'", 0⟩) := by
    decide +kernel
  rw [run] at tables
  obtain ⟨waits, rest⟩ := Prod.mk.inj (Option.some.inj tables)
  obtain ⟨ends, rest⟩ := Prod.mk.inj rest
  obtain ⟨answered, routed⟩ := Prod.mk.inj rest
  have distinct : Distinct (moments step subscriptions (opened ⟨10⟩ ⟨5⟩)) := by decide +kernel
  obtain ⟨subscribed, others, acknowledged, -⟩ :=
    tables_are_coherent (history_of_run run) distinct
  exact ⟨s, run, subscribed _ 1 waits, ends, others _ _ ends nofun, answered,
    (acknowledged _ _ routed answered).2.1⟩

end Socket

end Tendermint
