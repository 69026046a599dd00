import Tendermint.Proofs.Socket.Names
import Tendermint.Proofs.Socket.Orphans
import Tendermint.Proofs.Socket.Reach

/-!
# Tendermint.Proofs.Socket.Unsubscribing

How a dropped stream unsubscribes on the node. The `unsubscribe` command that it puts into the queue
is the only thing that makes the task send an `unsubscribe` request, and the task takes it once.

* `Life.Over`, `over_of_handled`: once its `unsubscribe` was handled, nothing changes a caller.
* `unsubscribe_spares`: handling it leaves all other callers alone.
* `receive_unclaimed`: the answer to the request that it sends is delivered to nobody.
* `Unsubscribed`, `unsubscribed_of_handled`: what an `unsubscribe` does, all together.
* `dropped_streams_are_unsubscribed_once`: every stream that is dropped, over every run.
-/

namespace Tendermint

namespace Life

variable {m : Moment Socket Socket.Action} {number : Nat} {l l' : Life} {share : Share} {c : Caller}

/-- It resolved with success and has dropped its stream. -/
def Quit (l : Life) : Prop :=
  l.caller.holds = false ∧ ∃ success, l.caller.stage = .resolved (.ok success)

theorem quit_step (step : l.Step m number share l') (quit : l.Quit) : l'.Quit := by
  obtain ⟨apart, success, told⟩ := quit
  refine ⟨?_, success, resolved_step step told⟩
  cases step with
  | finished => rw [closed_holds, apart]
  | _ => grind

/-- It has dropped its stream, and nothing of it is in the queue or in the tables. -/
structure Over (c : Caller) (l : Life) : Prop where
  same : l.caller = c
  quit : l.Quit
  idle : l.errands = []
  answered : l.pending = false
  unrouted : l.routed = false

theorem over_step (step : l.Step m number share l') (closed : l.Over c) : l'.Over c := by
  obtain ⟨same, quit, idle, answered, unrouted⟩ := closed
  have still := quit_step step quit
  obtain ⟨apart, success, told⟩ := quit
  refine ⟨?_, still, ?_, ?_, ?_⟩ <;> cases step <;> grind

theorem settled_step (step : l.Step m number share l') (silent : .ask ∉ l.errands)
    (answered : l.pending = false) : l'.pending = false := by
  cases step <;> grind

end Life

namespace Socket

variable {past : List (Moment Socket Action)} {s t : Socket} {action : Action} {timeout : Duration}
  {ids : RequestId.Counter} {k : Nat} {c : Caller} {id : RequestId}

/-! ## Giving up a stream -/

/-- A caller that drops a stream resolved with success, and never gets another stream. -/
theorem quit_of_drop (run : History step (opened timeout ids) past s) (distinct : Distinct past)
    {e : Moment Socket Action} (he : e ∈ past) (drops : e.action = .dropStream k) :
    ∃ b c, e.before.callers[k]? = some b ∧ b.holds = true ∧ s.callers[k]? = some c ∧
      c.asked = b.asked ∧ c.listens = true ∧ (s.life k c).Quit := by
  obtain ⟨before, later, rfl⟩ := List.append_of_mem he
  obtain ⟨t, run_before, hs, rest⟩ := run.split_at
  have actor : e.action.caller? = some k := by rw [drops]; rfl
  obtain ⟨b, d, hb, hd, acts, -⟩ := own_step hs actor
  rw [drops] at acts
  cases acts with
  | dropStream holds =>
    obtain ⟨-, -, lives⟩ := lived_run run_before distinct.of_append
    obtain ⟨listens, success, told, -⟩ := (lives k b hb).sound.holds holds
    have all := distinct.of_cons
    have run_on : History step (opened timeout ids) (before ++ [e]) t := .next run_before hs
    obtain ⟨c, hc, quit⟩ := lives_on run_on Life.quit_step hd ⟨rfl, success, told⟩ rest all
    have asked : c.asked = b.asked := by
      have kept := asked_run rest (getElem?_asked hd)
      rw [getElem?_asked hc] at kept
      exact Option.some.inj kept
    exact ⟨b, c, hb, holds, hc, asked, (congrArg Prod.snd asked).trans listens, quit⟩

/-- Only a stream that is dropped puts an `unsubscribe` into the queue. -/
theorem drop_of_queued (run : History step (opened timeout ids) past s)
    (queued : .unsubscribe id ∈ s.queue) :
    ∃ e ∈ past, ∃ k b, e.action = .dropStream k ∧ e.before.callers[k]? = some b ∧
      b.request.id = id := by
  obtain ⟨e, he, leaves | ⟨k, b, actor, hb, mine⟩⟩ := handed_run run queued
  · cases leaves
  · obtain ⟨asks, -⟩ | ⟨forgets, -⟩ | ⟨own, drops⟩ := handed_cases actor mine
    · have asker := asker?_commandFor k b.asked
      rw [← asks] at asker
      cases asker
    · cases forgets
    · exact ⟨e, he, k, b, drops, hb, (SocketCommand.unsubscribe.inj own).symm⟩

section Handled

variable {before later : List (Moment Socket Action)} {m : Moment Socket Action}
  (run : History step (opened timeout ids) (before ++ m :: later) s)
  (distinct : Distinct (before ++ m :: later)) (hc : s.callers[k]? = some c)
  (handled : handled? m = some (.unsubscribe c.request.id))
include run distinct hc handled

/-- From the moment at which its `unsubscribe` was handled, a caller stays as it is. -/
theorem over_of_handled :
    (s.life k c).Over c ∧ ∀ n ∈ later,
      n.before.callers[k]? = some c ∧ (n.before.life k c).Over c := by
  obtain ⟨t, b, run_before, hs, rest, hb, request, parts⟩ :=
    unsubscribe_moment run distinct hc handled
  have all := distinct.of_cons
  obtain ⟨ordered, -, lives⟩ := lived_run run_before distinct.of_append
  have lived := lives k b hb
  obtain ⟨errands, -, success, filled⟩ := lived.paired.parting parts
  obtain ⟨_, told⟩ := lived.tended.ends parts
  obtain ⟨-, apart⟩ := lived.sound.parted (.inl parts)
  have answered : (m.before.life k b).pending = false := by
    by_contra waits
    cases (lived.sound.unanswered (by simpa using waits)).symm.trans filled
  obtain ⟨d, hd, goes⟩ :=
    goesOn_step ordered all.of_append (fun n b hb => (lives n b hb).sound) hb hs
  have name : d.request = c.request := (Life.request_step goes).1.trans request
  have closed : (t.life k d).Over d := by
    refine ⟨rfl, Life.quit_step goes ⟨apart, _, told⟩, ?_,
      Life.settled_step goes (by simp [errands]) answered, ?_⟩
    · obtain ⟨_, tail, -, -, queue, rfl⟩ := handled_step hs handled
      simp only [life, queue, List.filterMap_cons, request, errand?, if_pos] at errands
      simpa [life, handle_queue, name] using errands
    · simp [life, name, Table.contains, released hs (.inl handled)]
  have kept : ∀ {part u}, History step t part u → Distinct ((before ++ [m]) ++ part) →
      u.callers[k]? = some d ∧ (u.life k d).Over d := by
    intro part u on apart
    obtain ⟨e, he, still⟩ := lives_on (.next run_before hs) Life.over_step hd closed on apart
    have same : e = d := still.same
    subst same
    exact ⟨he, still⟩
  obtain ⟨hd, now⟩ := kept rest all
  rw [hc] at hd
  cases hd
  refine ⟨now, fun n hn => ?_⟩
  obtain ⟨part, others, rfl⟩ := List.append_of_mem hn
  obtain ⟨-, on, -⟩ := rest.split_at
  rw [← List.append_assoc] at all
  exact kept on all.of_append

theorem handled_once : ∀ n ∈ before ++ later, handled? n ≠ some (.unsubscribe c.request.id) := by
  intro n hn again
  obtain earlier | after := List.mem_append.1 hn
  · obtain ⟨_, b, run_before, -, -, hb, request, parts⟩ :=
      unsubscribe_moment run distinct hc handled
    obtain ⟨-, -, lives⟩ := lived_run run_before distinct.of_append
    obtain ⟨-, routed, -⟩ := (lives k b hb).paired.parting parts
    have route : m.before.router.routes.contains c.request.id = true := request ▸ routed
    exact (unreleased run_before distinct.of_append route n earlier).1 again
  · obtain ⟨-, closed⟩ := (over_of_handled run distinct hc handled).2 n after
    obtain ⟨_, tail, -, queue⟩ := handled?_eq_some again
    have queued : .unsubscribe ∈ (n.before.life k c).errands :=
      unsubscribe_mem_errands.2 (queue ▸ List.mem_cons_self)
    rw [closed.idle] at queued
    cases queued

/-- The request that ends a subscription is under an identifier that is in no other use. -/
theorem fresh_of_handled {query : String} (hq : c.request.query? = some query) :
    m.before.ids.take.1 ∉ (before ++ later).flatMap used ∧
      ¬ m.before.Knows m.before.ids.take.1 := by
  obtain ⟨t, b, run_before, -⟩ := unsubscribe_moment run distinct hc handled
  obtain ⟨found, -⟩ := unsubscribe_query run distinct hc handled
  obtain ⟨fault, tail, takes, queue⟩ := handled?_eq_some handled
  have all := distinct.of_cons
  obtain ⟨ordered, -, -⟩ := lived_run run_before distinct.of_append
  have taken : used m = [m.before.ids.take.1] := by
    have whole : m = ⟨m.before, .handleNext fault⟩ := by rw [← takes]
    rw [whole]
    exact used_unsubscribe queue (by rw [found, hq, Option.isSome_some])
  refine ⟨?_, ordered.fresh all.of_append (by simp [taken])⟩
  rw [Distinct, List.flatMap_append, List.flatMap_cons, taken, List.singleton_append,
    List.nodup_middle, List.nodup_cons] at distinct
  rw [List.flatMap_append]
  exact distinct.1

end Handled

/-! ## What it does to others -/

/-- An `unsubscribe` changes nothing for any other caller. -/
theorem unsubscribe_spares (ordered : Ordered past s) (distinct : Distinct (past ++ [⟨s, action⟩]))
    (hs : s.step action = some t) (handled : handled? ⟨s, action⟩ = some (.unsubscribe id))
    (hc : s.callers[k]? = some c) (other : c.request.id ≠ id) :
    t.callers[k]? = some c ∧
      t.router.pending.get? c.request.id = s.router.pending.get? c.request.id ∧
      t.router.routes.get? c.request.id = s.router.routes.get? c.request.id := by
  obtain ⟨fault, rest, rfl, -, queue, heq⟩ := handled_step hs handled
  have new : ∀ query, (s.router.takeRoute id).1 = some query → ¬ s.Knows s.ids.take.1 :=
    fun _ found => ordered.fresh_unsubscribe distinct queue found
  have unused : ∀ query, (s.router.takeRoute id).1 = some query →
      s.router.pending.get? s.ids.take.1 = none := fun query found =>
    (isOutstanding_eq_false.1 (ordered.free (new query found))).1
  obtain ⟨callers, -, routes, -, change⟩ :=
    handle_unsubscribe (s := { s with queue := rest }) unused heq.symm
  refine ⟨?_, ?_, ?_⟩
  · have told := (ordered.of_rest queue).released hc id
    rw [callers]
    simpa [Ne.symm other, Caller.detachedIf] using told
  · obtain ⟨pending, -⟩ | ⟨query, found, pending, -⟩ := change
    · rw [pending]
    · have away : c.request.id ≠ s.ids.take.1 := fun same =>
        new query found (.inl ⟨c.asked, List.mem_of_getElem? (getElem?_asked hc), same⟩)
      rw [pending, Table.get?_insert, if_neg away, Table.get?_keep]
      cases entry : s.router.pending.get? c.request.id with
      | none => rfl
      | some entry =>
        -- Only an entry that nobody waits for can be too old.
        rw [ordered.own_entry hc entry, entryFor]
        split <;> rfl
  · rw [routes, Table.get?_erase, if_neg other]

theorem unclaimed_run (run : History step s past t) (unused : id ∉ past.flatMap used)
    (unclaimed : ∀ ask ∈ s.asked, ask.1.id ≠ id) : ∀ ask ∈ t.asked, ask.1.id ≠ id := by
  rintro ask asks rfl
  obtain before | taken := asker_of_run run asks
  · exact unclaimed ask before rfl
  · exact unused taken

/-- A frame under an identifier of no caller takes an entry away, if there is one, and does nothing
else. -/
theorem receive_unclaimed (ordered : Ordered past s) (unclaimed : ∀ ask ∈ s.asked, ask.1.id ≠ id)
    (plain : id.key = id) (hs : s.step action = some t) {json : Json}
    (comes : incoming? ⟨s, action⟩ = some (id, json)) :
    t = { s with router := { s.router with pending := s.router.pending.erase id } } := by
  cases Happens.of_step hs with
  | @received frame _ =>
    rw [receive_eq, comes]
    cases found : s.router.pending.get? id with
    | some entry =>
      obtain ⟨_, ask, hask, name, -⟩ | ⟨⟨sent, rfl⟩, -⟩ := ordered.pending id entry found
      · exact absurd name (unclaimed ask (List.mem_of_getElem? hask))
      · simp only [Router.route, found, Router.complete]
        rfl
    | none =>
      have unrouted : s.router.routes.get? id.key = none := by
        by_contra routed
        obtain ⟨route, hr⟩ := Option.ne_none_iff_exists'.1 routed
        obtain ⟨ask, hask, name, -⟩ := ordered.routes _ _ (plain ▸ hr)
        exact unclaimed ask (List.mem_of_getElem? hask) name
      simp only [Router.route, found, unrouted, Table.erase_of_get?_eq_none found]
      rfl
  | acts actor =>
    cases action <;> first | cases comes | cases actor
  | _ => cases comes

/-- So it stays for as long as no caller takes this identifier. -/
theorem absorbed_of_unclaimed (run : History step (opened timeout ids) past s)
    {later : List (Moment Socket Action)} (rest : History step s later t)
    (distinct : Distinct (past ++ later)) (unclaimed : ∀ ask ∈ s.asked, ask.1.id ≠ id)
    (unused : id ∉ later.flatMap used) (plain : id.key = id) :
    ∀ n ∈ later, ∀ json, incoming? n = some (id, json) → step n.action n.before = some
      { n.before with
        router := { n.before.router with pending := n.before.router.pending.erase id } } := by
  intro n hn json comes
  obtain ⟨part, others, rfl⟩ := List.append_of_mem hn
  obtain ⟨u, on, hu, -⟩ := rest.split_at
  rw [← List.append_assoc] at distinct
  obtain ⟨ordered, -, -⟩ := lived_run (run.append on) distinct.of_append
  rw [List.flatMap_append, List.mem_append, not_or] at unused
  rw [hu, receive_unclaimed ordered (unclaimed_run on unused.1 unclaimed) plain hu comes]

/-! ## All together -/

/-- What becomes of the moment `m` at which the task takes the `unsubscribe` of a subscription with
a query. -/
structure Unsubscribed (before : List (Moment Socket Action)) (m : Moment Socket Action)
    (later : List (Moment Socket Action)) (s : Socket) (number : Nat) (c : Caller)
    (query : String) : Prop where
  once : ∀ n ∈ before ++ later, handled? n ≠ some (.unsubscribe c.request.id)
  /-- One `unsubscribe` request with the query is sent, under a fresh identifier, and the task goes
  on, or sending it fails and nothing is sent any more. -/
  sends : (∃ request, sent m = [request] ∧ request.Unsubscribes m.before.ids.take.1 query) ∧
      (∃ t, step m.action m.before = some t ∧ t.phase = .running) ∨
    (∃ fault, m.action = .handleNext (some fault)) ∧ s.phase ≠ .running ∧
      s.written = m.before.written
  asked : c.request ∈ m.before.written
  fresh : m.before.ids.take.1 ∉ (before ++ later).flatMap used ∧
    ¬ m.before.Knows m.before.ids.take.1
  /-- From then on it has no route, and nothing comes to it. -/
  ends : s.router.routes.get? c.request.id = none ∧ ∀ n ∈ later,
    n.before.router.routes.get? c.request.id = none ∧ n.before.callers[number]? = some c
  spares : ∀ t, step m.action m.before = some t → t.queue = m.before.queue.tail ∧
    ∀ k d, k ≠ number → m.before.callers[k]? = some d → t.callers[k]? = some d ∧
      t.router.pending.get? d.request.id = m.before.router.pending.get? d.request.id ∧
      t.router.routes.get? d.request.id = m.before.router.routes.get? d.request.id
  /-- Its answer takes its own entry away, and does nothing else. -/
  absorbed : ∀ n ∈ later, ∀ json, incoming? n = some (m.before.ids.take.1, json) →
    step n.action n.before = some
      { n.before with
        router := { n.before.router with
          pending := n.before.router.pending.erase m.before.ids.take.1 } }

theorem unsubscribed_of_handled {before later : List (Moment Socket Action)}
    {m : Moment Socket Action} (run : History step (opened timeout ids) (before ++ m :: later) s)
    (distinct : Distinct (before ++ m :: later)) (hc : s.callers[k]? = some c)
    (handled : handled? m = some (.unsubscribe c.request.id)) {query : String}
    (hq : c.request.query? = some query) : Unsubscribed before m later s k c query := by
  obtain ⟨t, b, run_before, hs, rest, hb, request, -⟩ :=
    unsubscribe_moment run distinct hc handled
  obtain ⟨found, asked⟩ := unsubscribe_query run distinct hc handled
  obtain ⟨fault, tail, -, -, queue, heq⟩ := handled_step hs handled
  obtain ⟨now, closed⟩ := over_of_handled run distinct hc handled
  have all := distinct.of_cons
  obtain ⟨ordered, -, -⟩ := lived_run run_before distinct.of_append
  have fresh := fresh_of_handled run distinct hc handled hq
  have unrouted : ∀ u : Socket, (u.life k c).Over c → u.router.routes.get? c.request.id = none := by
    intro u closed
    simpa [life, Table.contains] using closed.unrouted
  refine ⟨handled_once run distinct hc handled, ?_, asked, fresh, ?_, ?_, ?_⟩
  · obtain ⟨sends, goesOn⟩ | ⟨faulty, leaving, written⟩ :=
      sent_unsubscription hs handled (found.trans hq)
    · exact .inl ⟨⟨_, sends, unsubscribes_unsubscription _ query⟩, t, hs, goesOn⟩
    · obtain ⟨gone, same⟩ := left_run rest (by simp [leaving])
      exact .inr ⟨faulty, gone, same.trans written⟩
  · exact ⟨unrouted s now, fun n hn => ⟨unrouted _ (closed n hn).2, (closed n hn).1⟩⟩
  · intro u hu
    cases hs.symm.trans hu
    refine ⟨by rw [heq, handle_queue, queue, List.tail_cons], ?_⟩
    intro n d apart hd
    refine unsubscribe_spares ordered all.of_append hs handled hd ?_
    rw [← request]
    exact fun same => apart (ordered.same (getElem?_asked hd) (getElem?_asked hb) same)
  · refine absorbed_of_unclaimed (.next run_before hs) rest all ?_ ?_ ?_
    · rw [heq, asked_handle]
      exact fun ask mine same => fresh.2 (.inl ⟨ask, mine, same⟩)
    · rw [List.flatMap_append, List.mem_append, not_or] at fresh
      exact fresh.1.2
    · exact RequestId.key_of_plain (RequestId.Counter.plain_toString _)

/-- Whatever is sent is the request of a caller, or the `unsubscribe` request of a caller that has
dropped its stream while the task ran. -/
theorem sender_of_sent {before later : List (Moment Socket Action)} {m : Moment Socket Action}
    (run : History step (opened timeout ids) (before ++ m :: later) s)
    (distinct : Distinct (before ++ m :: later)) {request : Request} (sends : request ∈ sent m) :
    (∃ k c, s.callers[k]? = some c ∧ handled? m = some (commandFor k c.asked) ∧
        request = c.request) ∨
      ∃ e ∈ before, ∃ k c query, e.action = .dropStream k ∧ e.before.phase = .running ∧
        s.callers[k]? = some c ∧ handled? m = some (.unsubscribe c.request.id) ∧
        c.request.query? = some query ∧ request.Unsubscribes m.before.ids.take.1 query := by
  obtain ⟨t, run_before, hs, rest⟩ := run.split_at
  obtain ⟨command, handled, sends⟩ := handled_of_sent sends
  obtain ⟨fault, tail, -, running, queue, -⟩ := handled_step hs handled
  have queued : command ∈ m.before.queue := queue ▸ List.mem_cons_self
  have own : ∀ k ask, command = commandFor k ask → ∃ k c, s.callers[k]? = some c ∧
      handled? m = some (commandFor k c.asked) ∧ request = c.request := by
    rintro k ask rfl
    have asks := (owned_run run_before).asker k ask queued
    obtain ⟨c, hc, rfl⟩ := exists_caller (asked_run ((History.single hs).append rest) asks)
    rw [requested_commandFor] at sends
    split at sends
    · cases sends
    · exact ⟨k, c, hc, handled, List.mem_singleton.1 sends⟩
  cases command with
  | call asked k => exact .inl (own k (asked, false) rfl)
  | listen asked k => exact .inl (own k (asked, true) rfl)
  | unsubscribe id =>
    obtain ⟨query, found, rfl⟩ := Option.map_eq_some_iff.1 (Option.mem_toList.1 sends)
    obtain ⟨e, he, k, b, drops, hb, rfl⟩ := drop_of_queued run_before queued
    obtain ⟨b', c, hb', -, hc, asked, -⟩ :=
      quit_of_drop run distinct (List.mem_append_left _ he) drops
    rw [hb] at hb'
    cases hb'
    have request : b.request = c.request := (congrArg Prod.fst asked).symm
    rw [request] at handled found
    have early : e.before.phase = .running := by
      by_contra left
      obtain ⟨part, others, rfl⟩ := List.append_of_mem he
      obtain ⟨u, -, hu, on⟩ := run_before.split_at
      exact (left_run ((History.single hu).append on) left).1 running
    have known := (unsubscribe_query run distinct hc handled).1
    exact .inr ⟨e, he, k, c, query, drops, early, hc, handled, known.symm.trans found,
      unsubscribes_unsubscription _ query⟩
  | _ => cases sends

/-- Over a run that uses no identifier twice, as none out of one row does, a caller that drops a
stream has resolved with success, and its `unsubscribe` is in the queue or was dropped with the
task, or the task has taken it, and `Unsubscribed` says what became of that. Whatever else is sent
is the request of a caller. -/
theorem dropped_streams_are_unsubscribed_once (run : History step (opened timeout ids) past s)
    (distinct : Distinct past) :
    (∀ e ∈ past, ∀ number, e.action = .dropStream number →
      ∃ caller success, s.callers[number]? = some caller ∧ caller.listens = true ∧
        caller.stage = .resolved (.ok success) ∧ caller.holds = false ∧
        ((∀ m ∈ past, handled? m ≠ some (.unsubscribe caller.request.id)) ∧
            (.unsubscribe caller.request.id ∈ s.queue ∨ s.phase = .finished) ∨
          ∃ before m later, past = before ++ m :: later ∧ e ∈ before ∧
            handled? m = some (.unsubscribe caller.request.id) ∧
            ∀ query, caller.request.query? = some query →
              Unsubscribed before m later s number caller query)) ∧
    ∀ before m later, past = before ++ m :: later → ∀ request ∈ sent m,
      (∃ number caller, s.callers[number]? = some caller ∧
        handled? m = some (commandFor number caller.asked) ∧ request = caller.request) ∨
      ∃ e ∈ before, ∃ number caller query success, e.action = .dropStream number ∧
        e.before.phase = .running ∧ s.callers[number]? = some caller ∧ caller.listens = true ∧
        caller.stage = .resolved (.ok success) ∧ caller.holds = false ∧
        handled? m = some (.unsubscribe caller.request.id) ∧
        caller.request.query? = some query ∧
        request.Unsubscribes m.before.ids.take.1 query := by
  constructor
  · intro e he k drops
    obtain ⟨b, c, hb, held, hc, -, listens, apart, success, told⟩ :=
      quit_of_drop run distinct he drops
    refine ⟨c, success, hc, listens, told, apart, ?_⟩
    by_cases ever : ∃ m ∈ past, handled? m = some (.unsubscribe c.request.id)
    · right
      obtain ⟨m, hm, handled⟩ := ever
      obtain ⟨before, later, rfl⟩ := List.append_of_mem hm
      refine ⟨before, m, later, rfl, ?_, handled,
        fun query hq => unsubscribed_of_handled run distinct hc handled hq⟩
      obtain earlier | now | after := (List.mem_append.1 he).imp_right List.mem_cons.1
      · exact earlier
      · obtain ⟨fault, -, takes, -⟩ := handled?_eq_some handled
        rw [← now, drops] at takes
        cases takes
      · obtain ⟨same, -⟩ := (over_of_handled run distinct hc handled).2 e after
        rw [hb] at same
        cases same
        cases held.symm.trans apart
    · left
      rw [not_exists] at ever
      have never : ∀ m ∈ past, handled? m ≠ some (.unsubscribe c.request.id) :=
        fun m hm handled => ever m ⟨hm, handled⟩
      refine ⟨never, ?_⟩
      obtain holds | queued | ⟨m, hm, handled⟩ | atEnd := given_up run distinct hc listens told
      · cases holds.symm.trans apart
      · exact .inl queued
      · exact absurd handled (never m hm)
      · exact .inr atEnd
  · rintro before m later rfl request sends
    obtain own | ⟨e, he, k, c, query, drops, running, hc, rest⟩ :=
      sender_of_sent run distinct sends
    · exact .inl own
    · right
      obtain ⟨_, d, -, -, hd, -, listens, apart, success, told⟩ :=
        quit_of_drop run distinct (List.mem_append_left _ he) drops
      rw [hc] at hd
      cases hd
      exact ⟨e, he, k, c, query, success, drops, running, hc, listens, told, apart, rest⟩

/-- Two subscriptions. The stream of the second is dropped, an event of it still comes, and the node
answers the `unsubscribe` request. -/
def partings : List Action :=
  [.beginNext true "subscribe" (Params.subscription ⟨"tm.event='NewBlock'"⟩),
    .beginNext true "subscribe" (Params.subscription ⟨"tm.event='Tx'"⟩), .submit 0, .submit 1,
    .handleNext none, .handleNext none,
    .receive (.text "\x7b\"id\":\"5\",\"result\":\x7b\x7d\x7d"),
    .receive (.text "\x7b\"id\":\"6\",\"result\":\x7b\x7d\x7d"), .resume 0, .resume 1,
    .dropStream 1, .receive (.text "\x7b\"id\":\"6#event\",\"result\":\x7b\x7d\x7d"),
    .handleNext none, .receive (.text "\x7b\"id\":\"7\",\"result\":\x7b\x7d\x7d")]

theorem partings_are_unsubscribed_once :
    ∃ s before m later caller, (opened ⟨10⟩ ⟨5⟩).run partings = some s ∧
      moments step partings (opened ⟨10⟩ ⟨5⟩) = before ++ m :: later ∧
      handled? m = some (.unsubscribe (.text "6")) ∧ s.callers[1]? = some caller ∧
      Unsubscribed before m later s 1 caller "tm.event='Tx'" ∧
      s.written.map (fun request => (request.id, request.method, request.query?)) =
        [(.text "5", "subscribe", some "tm.event='NewBlock'"),
          (.text "6", "subscribe", some "tm.event='Tx'"),
          (.text "7", "unsubscribe", some "tm.event='Tx'")] := by
  have possible : ((opened ⟨10⟩ ⟨5⟩).run partings).isSome = true := rfl
  obtain ⟨s, run⟩ := Option.isSome_iff_exists.1 possible
  have state : (((opened ⟨10⟩ ⟨5⟩).run partings).map fun s =>
      (s.phase, s.queue, s.callers[1]?.map fun c => (c.request.id, c.request.query?),
        s.written.map fun request => (request.id, request.method, request.query?))) =
      some (.running, [], some (.text "6", some "tm.event='Tx'"),
        [(.text "5", "subscribe", some "tm.event='NewBlock'"),
          (.text "6", "subscribe", some "tm.event='Tx'"),
          (.text "7", "unsubscribe", some "tm.event='Tx'")]) := rfl
  rw [run] at state
  simp only [Option.map_some, Option.some.injEq, Prod.mk.injEq] at state
  obtain ⟨running, empty, second, written⟩ := state
  have distinct : Distinct (moments step partings (opened ⟨10⟩ ⟨5⟩)) := by decide +kernel
  have actions : (moments step partings (opened ⟨10⟩ ⟨5⟩)).map Moment.action = partings := rfl
  obtain ⟨e, he, drops⟩ : ∃ e ∈ moments step partings (opened ⟨10⟩ ⟨5⟩),
      e.action = .dropStream 1 := by
    rw [← List.mem_map, actions]
    decide
  obtain ⟨caller, success, hc, -, -, -, outcome⟩ :=
    (dropped_streams_are_unsubscribed_once (history_of_run run) distinct).1 e he 1 drops
  rw [hc] at second
  simp only [Option.map_some, Option.some.injEq, Prod.mk.injEq] at second
  obtain ⟨name, query⟩ := second
  obtain ⟨-, queued | atEnd⟩ | ⟨before, m, later, whole, -, handled, comes⟩ := outcome
  · simp [empty] at queued
  · cases running.symm.trans atEnd
  · exact ⟨s, before, m, later, caller, run, whole, name ▸ handled, hc, comes _ query, written⟩

end Socket

end Tendermint
