import Tendermint.Proofs.Socket.Coherence
import Tendermint.Proofs.Socket.Ownership

/-!
# Tendermint.Proofs.Socket.Orphans

The caller or the command behind every route. A caller that drops its stream sends an `unsubscribe`,
and one whose timer expires a `forget`; both take the route away. A caller that is gone, because its
future was dropped while it waited, sends nothing: if its subscription is acknowledged the route
stays until the task finishes.

* `Life.Tended`, `Lived.tended`: a caller, or a command in the queue, is behind every route.
* `Lived.heeded`: an answer reaches the caller that waits for it.
* `Followed`, `followed_of_handled`: an `unsubscribe` request follows a dropped stream.
* `Life.Stranded`: the route of a caller that is gone.
* `subscriptions_are_accounted_for`: all subscriptions, over every run.
-/

namespace Tendermint

/-- It waits no longer and has no answer: it went away, or its time ran out. -/
def Caller.Deserted (c : Caller) : Prop :=
  c.stage = .gone ∨ ∃ limit, c.stage = .resolved (.error (.timeout limit))

namespace Life

variable {past : List (Moment Socket Socket.Action)} {m : Moment Socket Socket.Action}
  {number : Nat} {l l' : Life} {share : Share} {id : RequestId}

/-- Behind an entry or a route is a caller that holds its stream, waits or is gone, or an
`unsubscribe` or a `forget` in the queue. -/
structure Tended (l : Life) : Prop where
  behind : .ask ∈ l.errands ∨ l.pending = true ∨ l.routed = true →
    l.caller.holds = true ∨ l.caller.awaits = true ∨ l.caller.stage = .gone ∨
      .unsubscribe ∈ l.errands ∨ .forget ∈ l.errands
  /-- A subscription that failed has no route. -/
  succeeded : l.routed = true →
    l.caller.answer = .empty ∨ ∃ success, l.caller.answer = .filled (.ok success)
  taken : ∀ outcome, l.caller.answer = .filled outcome →
    l.caller.awaits = true ∨ l.caller.Deserted ∨ l.caller.stage = .resolved outcome
  ends : .unsubscribe ∈ l.errands → ∃ success, l.caller.stage = .resolved (.ok success)
  forgets : .forget ∈ l.errands → ∃ limit, l.caller.stage = .resolved (.error (.timeout limit))

attribute [grind] Caller.Deserted

theorem behind_step (sound : l.Sound) (paired : l.Paired) (tended : l.Tended)
    (step : l.Step m number share l') :
    .ask ∈ l'.errands ∨ l'.pending = true ∨ l'.routed = true →
      l'.caller.holds = true ∨ l'.caller.awaits = true ∨ l'.caller.stage = .gone ∨
        .unsubscribe ∈ l'.errands ∨ .forget ∈ l'.errands := by
  have behind := tended.behind
  have untouched := sound.untouched
  have once := sound.once
  have unanswered := sound.unanswered
  have ended := sound.ended
  cases step with
  | @resumed outcome waits found =>
    have slot := Socket.outcome?_eq_some.1 found
    have succeeded := tended.succeeded
    have abandoned := sound.abandoned
    have attached := sound.attached
    cases outcome with
    | ok success => grind
    | error error => grind
  | unsubscribed _ _ next =>
    -- The route goes in this step, and the entry went with the answer.
    have parting := paired.parting
    grind
  | _ => grind

theorem succeeded_step (sound : l.Sound) (tended : l.Tended) (step : l.Step m number share l') :
    l'.routed = true →
      l'.caller.answer = .empty ∨ ∃ success, l'.caller.answer = .filled (.ok success) := by
  have succeeded := tended.succeeded
  have attached := sound.attached
  have unanswered := sound.unanswered
  have untouched := sound.untouched
  cases step with
  | @answered json _ waits _ kept =>
    cases content : Reply.outcomeOf (Reply.ofJson json) with
    | ok success => grind
    | error error => grind
  | _ => grind

theorem taken_step (sound : l.Sound) (tended : l.Tended) (step : l.Step m number share l') :
    ∀ outcome, l'.caller.answer = .filled outcome →
      l'.caller.awaits = true ∨ l'.caller.Deserted ∨ l'.caller.stage = .resolved outcome := by
  have taken := tended.taken
  have untouched := sound.untouched
  cases step with
  | resumed waits found =>
    have slot := Socket.outcome?_eq_some.1 found
    grind
  | _ => grind

theorem ends_step (sound : l.Sound) (tended : l.Tended) (step : l.Step m number share l') :
    .unsubscribe ∈ l'.errands → ∃ success, l'.caller.stage = .resolved (.ok success) := by
  have ends := tended.ends
  have held := sound.held
  have parted := sound.parted
  have holds := sound.holds
  cases step <;> grind

theorem forgets_step (sound : l.Sound) (tended : l.Tended) (step : l.Step m number share l') :
    .forget ∈ l'.errands → ∃ limit, l'.caller.stage = .resolved (.error (.timeout limit)) := by
  have forgets := tended.forgets
  have held := sound.held
  have parted := sound.parted
  cases step with
  | expired => exact fun _ => ⟨_, rfl⟩
  | _ => grind

theorem tended_step (sound : l.Sound) (paired : l.Paired) (tended : l.Tended)
    (step : l.Step m number share l') : l'.Tended :=
  ⟨behind_step sound paired tended step, succeeded_step sound tended step,
    taken_step sound tended step, ends_step sound tended step, forgets_step sound tended step⟩

/-- A caller whose request can still be answered waits, is gone or has had its `timeout`. -/
theorem Tended.waiting (tended : l.Tended) (sound : l.Sound) (paired : l.Paired)
    (waits : l.pending = true) : l.caller.awaits = true ∨ l.caller.Deserted := by
  have empty := sound.unanswered waits
  obtain holds | awaits | gone | unsubscribes | forgets := tended.behind (.inr (.inl waits))
  · obtain ⟨-, _, -, filled⟩ := sound.holds holds
    cases empty.symm.trans filled
  · exact .inl awaits
  · exact .inr (.inl gone)
  · obtain ⟨-, -, _, filled⟩ := paired.parting unsubscribes
    cases empty.symm.trans filled
  · exact .inr (.inr (tended.forgets forgets))

/-- A caller that is gone, or has had its `timeout`, stays so. -/
theorem deserted_step (step : l.Step m number share l')
    (deserted : l.caller.Deserted) : l'.caller.Deserted := by
  cases step with
  | finished =>
    rw [Caller.Deserted, closed_stage]
    exact deserted
  | _ => grind

theorem filled_step {outcome : Except RpcError Success} (step : l.Step m number share l')
    (filled : l.caller.answer = .filled outcome) : l'.caller.answer = .filled outcome := by
  cases step <;> grind

/-- The frame that answers a request reaches the caller that waits. -/
theorem heeded_step (sound : l.Sound) (paired : l.Paired) (tended : l.Tended)
    (step : l.Step m number share l') {json : Json} (frames : share.frames = [json]) :
    l'.caller.answer = .filled (Reply.outcomeOf (Reply.ofJson json)) ∨ l'.caller.Deserted := by
  have unanswered := sound.unanswered
  cases step with
  | answered _ waits _ _ =>
    cases frames
    have waiting := tended.waiting sound paired waits
    grind
  | rejected _ waits _ _ failed =>
    cases frames
    have waiting := tended.waiting sound paired waits
    grind
  | _ => cases frames

theorem closed_holds (pending routed asks : Bool) (c : Caller) :
    (c.closed pending routed asks).holds = c.holds := by
  cases pending <;> cases routed <;> cases asks <;> grind

/-- A listener that resolved with success holds its stream, drops it in this step, or dropped it
before. -/
theorem success_step {success : Success} (step : l.Step m number share l')
    (listens : l'.caller.listens = true) (told : l'.caller.stage = .resolved (.ok success)) :
    l'.caller.holds = true ∨ .unsubscribe ∈ l'.errands ∨ l'.phase = .finished ∨
      l.caller.stage = .resolved (.ok success) ∧ l.caller.holds = false := by
  cases step with
  | finished => exact .inr (.inr (.inl rfl))
  | _ => grind

/-- It went away with a route, and nothing is left that would take the route away. -/
structure Stranded (id : RequestId) (l : Life) : Prop where
  name : l.caller.request.id = id
  gone : l.caller.stage = .gone ∧ l.caller.holds = false
  idle : l.errands = [] ∧ l.pending = false
  routed : l.routed = true ∨ l.phase = .finished

/-- A caller that is gone has nothing but its `call` or `listen` in the queue. -/
theorem Tended.idle (tended : l.Tended) (sound : l.Sound) (gone : l.caller.stage = .gone)
    (routed : l.routed = true) : l.errands = [] := by
  rw [List.eq_nil_iff_forall_not_mem]
  intro errand mine
  cases errand with
  | ask =>
    obtain ⟨-, unrouted, -⟩ := sound.untouched (.inr mine)
    cases unrouted.symm.trans routed
  | unsubscribe =>
    obtain ⟨success, resolved⟩ := tended.ends mine
    cases gone.symm.trans resolved
  | forget =>
    obtain ⟨limit, resolved⟩ := tended.forgets mine
    cases gone.symm.trans resolved

/-- The route of a listener that is gone stays when its subscription is acknowledged. -/
theorem orphaned_step (sound : l.Sound) (paired : l.Paired) (tended : l.Tended)
    (step : l.Step m number share l') (listens : l.caller.listens = true)
    (before : l.caller.stage = .gone → share.frames = [] → l.routed = true ∨ l.phase = .finished)
    (filled : share.frames = [] → l.caller.awaits = true →
      ∃ success, l.caller.answer = .filled (.ok success))
    (accepted : ∀ json ∈ share.frames, ∃ success,
      Reply.outcomeOf (Reply.ofJson json) = .ok success)
    (gone : l'.caller.stage = .gone) : l'.routed = true ∨ l'.phase = .finished := by
  cases step with
  | abandoned waits =>
    obtain ⟨success, answer⟩ := filled rfl waits
    have route := sound.route (.inr ⟨listens, waits, .inr ⟨success, answer⟩⟩)
    grind
  | answered phase waits _ _ =>
    left
    rw [paired.coupled waits, listens]
  | rejected _ _ _ _ failed =>
    obtain ⟨success, content⟩ := accepted _ (List.mem_singleton_self _)
    cases failed.symm.trans content
  | unsubscribed _ _ next =>
    obtain ⟨success, resolved⟩ := tended.ends (by simp [next])
    grind
  | forgotten _ next =>
    obtain ⟨limit, resolved⟩ := tended.forgets (by simp [next])
    grind
  | finished => exact .inr rfl
  | _ => grind [Share.none]

theorem stranded_step (step : l.Step m number share l') (stranded : l.Stranded id) :
    l'.Stranded id := by
  obtain ⟨name, ⟨gone, holds⟩, ⟨idle, answered⟩, routed⟩ := stranded
  have request := (request_step step).1
  refine ⟨by rw [request, name], ?_, ?_, ?_⟩
  · cases step with
    | finished =>
      rw [closed_stage, closed_holds]
      exact ⟨gone, holds⟩
    | _ => grind
  · cases step <;> grind
  · cases step <;> grind

end Life

section Lived

variable {number : Nat} {past : List (Moment Socket Socket.Action)} {l : Life}

theorem Lived.tended (lived : Lived number past l) : l.Tended := by
  induction lived with
  | born stage_eq _ => constructor <;> grind [Life.born, Caller.start]
  | next lived step _ ih => exact Life.tended_step lived.sound lived.paired ih step

/-- An answer reaches the caller that waits for it. -/
theorem Lived.heeded (lived : Lived number past l) {json : Json}
    (frames : past.flatMap (Socket.framesFor l.caller.request.id) = [json]) :
    l.caller.answer = .filled (Reply.outcomeOf (Reply.ofJson json)) ∨ l.caller.Deserted := by
  induction lived with
  | @born past request listens stage phase _ before =>
    have silent : past.flatMap (Socket.framesFor request.id) = [] := by
      rw [List.flatMap_eq_nil_iff]
      exact fun m hm => congrArg Share.frames (before m hm)
    cases silent.symm.trans frames
  | @next past m l l' share lived step shared ih =>
    have now : Socket.framesFor l.caller.request.id m = share.frames := congrArg Share.frames shared
    rw [(Life.request_step step).1, List.flatMap_append, List.flatMap_singleton, now] at frames
    obtain quiet | waits := Life.frames_step step
    · rw [quiet, List.append_nil] at frames
      obtain filled | deserted := ih frames
      · exact .inl (Life.filled_step step filled)
      · exact .inr (Life.deserted_step step deserted)
    · rw [lived.told.silent (.inr (.inr waits)), List.nil_append] at frames
      exact Life.heeded_step lived.sound lived.paired lived.tended step frames

/-- The route of a listener that is gone stays when its subscription is acknowledged. -/
theorem Lived.orphaned (lived : Lived number past l) (listens : l.caller.listens = true)
    (gone : l.caller.stage = .gone) (acknowledged : Life.Acknowledged past l.caller.request.id) :
    l.routed = true ∨ l.phase = .finished := by
  induction lived with
  | born stage_eq _ =>
    obtain admitted | refused := stage_eq
    · cases admitted.symm.trans gone
    · cases refused.symm.trans gone
  | @next past m l l' share lived step shared ih =>
    obtain ⟨json, success, frames, content⟩ := acknowledged
    have now : Socket.framesFor l.caller.request.id m = share.frames := congrArg Share.frames shared
    have request := Life.request_step step
    rw [request.1, List.flatMap_append, List.flatMap_singleton, now] at frames
    rw [request.2] at listens
    have only : share.frames = [] → past.flatMap (Socket.framesFor l.caller.request.id) = [json] := by
      intro quiet
      rwa [quiet, List.append_nil] at frames
    refine Life.orphaned_step lived.sound lived.paired lived.tended step listens ?_ ?_ ?_ gone
    · exact fun left quiet => ih listens left ⟨json, success, only quiet, content⟩
    · intro quiet waits
      obtain filled | deserted := lived.heeded (only quiet)
      · exact ⟨success, by rw [filled, content]⟩
      · grind
    · intro other hother
      have mine : other ∈ [json] := frames ▸ List.mem_append_right _ hother
      rw [List.mem_singleton.1 mine]
      exact ⟨success, content⟩

/-- A listener that is gone, and whose subscription was acknowledged, is stranded. -/
theorem Lived.stranded (lived : Lived number past l) (listens : l.caller.listens = true)
    (gone : l.caller.stage = .gone) (acknowledged : Life.Acknowledged past l.caller.request.id) :
    l.Stranded l.caller.request.id := by
  have routed := lived.orphaned listens gone acknowledged
  refine ⟨rfl, ⟨gone, ?_⟩, ⟨?_, ?_⟩, routed⟩
  · by_contra holds
    obtain ⟨-, success, resolved, -⟩ := lived.sound.holds (by simpa using holds)
    cases gone.symm.trans resolved
  · obtain routed | atEnd := routed
    · exact lived.tended.idle lived.sound gone routed
    · exact (lived.sound.ended atEnd).1
  · by_contra waits
    obtain ⟨json, success, frames, -⟩ := acknowledged
    cases (lived.told.silent (.inr (.inr (by simpa using waits)))).symm.trans frames

end Lived

namespace Socket

variable {past : List (Moment Socket Action)} {s t : Socket} {timeout : Duration}
  {ids : RequestId.Counter} {k : Nat} {c : Caller}

/-- Some request was written, and after it an `unsubscribe` request for a query. -/
def Followed (written : List Request) (request : Request) (query : String) : Prop :=
  ∃ before last fresh after, written = before ++ last :: after ∧ request ∈ before ∧
    last.Unsubscribes fresh query

theorem unsubscribe_mem_errands :
    .unsubscribe ∈ (s.life k c).errands ↔ .unsubscribe c.request.id ∈ s.queue := by
  simp only [life, List.mem_filterMap]
  constructor
  · rintro ⟨command, queued, own⟩
    cases command <;> simp [errand?] at own
    rw [← own]
    exact queued
  · exact fun queued => ⟨_, queued, if_pos rfl⟩

section Moment

variable {before later : List (Moment Socket Action)} {m : Moment Socket Action}
  (run : History step (opened timeout ids) (before ++ m :: later) s)
  (distinct : Distinct (before ++ m :: later)) (hc : s.callers[k]? = some c)
  (handled : handled? m = some (.unsubscribe c.request.id))
include run distinct hc handled

/-- The moment at which an `unsubscribe` was handled, and its caller then. -/
theorem unsubscribe_moment :
    ∃ t b, History step (opened timeout ids) before m.before ∧ step m.action m.before = some t ∧
      History step t later s ∧ m.before.callers[k]? = some b ∧ b.request = c.request ∧
      .unsubscribe ∈ (m.before.life k b).errands := by
  obtain ⟨t, run_before, hs, rest⟩ := run.split_at
  have early : Distinct before := distinct.of_append
  obtain ⟨ordered, -, -⟩ := lived_run run distinct
  obtain ⟨_, tail, -, queue⟩ := handled?_eq_some handled
  have queued : .unsubscribe c.request.id ∈ m.before.queue := queue ▸ List.mem_cons_self
  obtain ⟨n, b, hb, name⟩ := (lived_run run_before early).1.owner queued (.inl rfl)
  have still := asked_run rest (asked_step hs (getElem?_asked hb))
  have same : n = k := ordered.same still (getElem?_asked hc) name
  subst same
  rw [getElem?_asked hc] at still
  have request : b.request = c.request := (congrArg Prod.fst (Option.some.inj still)).symm
  refine ⟨t, b, run_before, hs, rest, hb, request, ?_⟩
  rw [unsubscribe_mem_errands, request]
  exact queued

/-- When an `unsubscribe` is handled, its route is there with its query, and the `subscribe` request
was written before. -/
theorem unsubscribe_query :
    (m.before.router.takeRoute c.request.id).1 = c.request.query? ∧
      c.request ∈ m.before.written := by
  obtain ⟨t, b, run_before, -, -, hb, request, parts⟩ :=
    unsubscribe_moment run distinct hc handled
  obtain ⟨ordered, -, lives⟩ := lived_run run_before distinct.of_append
  obtain ⟨-, routed, -⟩ := (lives k b hb).paired.parting parts
  obtain ⟨route, hr⟩ := Option.isSome_iff_exists.1 routed
  obtain ⟨ask, hask, -, -, kept, written⟩ := (owned_run run_before).route _ route hr
  have mine : ask = b.asked := by
    rw [(ordered.own_route hb hr).1, getElem?_asked hb] at hask
    exact (Option.some.inj hask).symm
  have found : m.before.router.routes.get? c.request.id = some route := request ▸ hr
  rw [mine, Caller.asked, request] at kept written
  exact ⟨by simp [Router.takeRoute, found, kept], written⟩

end Moment

/-- Of a subscription with a query an `unsubscribe` request is written after its own request. -/
theorem followed_of_handled (run : History step (opened timeout ids) past s)
    (distinct : Distinct past) (running : s.phase = .running) (hc : s.callers[k]? = some c)
    {m : Moment Socket Action} (hm : m ∈ past)
    (handled : handled? m = some (.unsubscribe c.request.id)) {query : String}
    (hq : c.request.query? = some query) : Followed s.written c.request query := by
  obtain ⟨before, later, rfl⟩ := List.append_of_mem hm
  obtain ⟨t, b, -, hs, rest, -⟩ := unsubscribe_moment run distinct hc handled
  obtain ⟨found, written⟩ := unsubscribe_query run distinct hc handled
  obtain ⟨sends, -⟩ | ⟨-, leaving, -⟩ := sent_unsubscription hs handled (found.trans hq)
  · refine ⟨m.before.written, _, m.before.ids.take.1, later.flatMap sent, ?_, written,
      unsubscribes_unsubscription _ query⟩
    rw [written_run ((History.single hs).append rest), List.flatMap_append, List.flatMap_singleton,
      sends]
    rfl
  · exact absurd running (left_run rest (by simp [leaving])).1

/-- One whose wait ended without an answer has no subscription ended. -/
theorem never_unsubscribed (run : History step (opened timeout ids) past s)
    (distinct : Distinct past) (hc : s.callers[k]? = some c) (deserted : c.Deserted) :
    ∀ m ∈ past, handled? m ≠ some (.unsubscribe c.request.id) := by
  intro m hm handled
  obtain ⟨before, later, rfl⟩ := List.append_of_mem hm
  obtain ⟨t, b, run_before, hs, rest, hb, request, parts⟩ :=
    unsubscribe_moment run distinct hc handled
  obtain ⟨-, -, lives⟩ := lived_run run_before distinct.of_append
  obtain ⟨success, resolved⟩ := (lives k b hb).tended.ends parts
  obtain ⟨d, hd, outcome⟩ := lives_on run_before Life.resolved_step hb resolved
    ((History.single hs).append rest) distinct
  rw [hc] at hd
  cases hd
  obtain gone | ⟨limit, expired⟩ := deserted
  · cases gone.symm.trans outcome
  · cases expired.symm.trans outcome

/-- A listener that resolved with success and holds no stream has dropped it. -/
theorem given_up (run : History step (opened timeout ids) past s) (distinct : Distinct past)
    {success : Success} (hc : s.callers[k]? = some c) (listens : c.listens = true)
    (told : c.stage = .resolved (.ok success)) :
    c.holds = true ∨ .unsubscribe c.request.id ∈ s.queue ∨
      (∃ m ∈ past, handled? m = some (.unsubscribe c.request.id)) ∨ s.phase = .finished := by
  induction run generalizing c with
  | start => cases hc
  | @next past s t action run hs ih =>
    obtain ⟨ordered, -, lives⟩ := lived_run run distinct.of_append
    cases before : s.callers[k]? with
    | none =>
      obtain ⟨_, _, _, -, -, -, rfl⟩ := newcomer_step hs before hc
      simp only [Caller.start] at told
      split at told <;> cases told
    | some b =>
      obtain ⟨d, hd, step⟩ :=
        goesOn_step ordered distinct (fun n b hb => (lives n b hb).sound) before hs
      rw [hc] at hd
      cases hd
      have request : c.request = b.request := (Life.request_step step).1
      have same : c.listens = b.listens := (Life.request_step step).2
      -- Only a stream that was dropped before needs the run: its `unsubscribe` was queued or
      -- handled.
      obtain holds | parts | atEnd | ⟨earlier, apart⟩ := Life.success_step step listens told
      · exact .inl holds
      · exact .inr (.inl (unsubscribe_mem_errands.1 parts))
      · exact .inr (.inr (.inr atEnd))
      · rw [request]
        obtain holds | queued | ⟨m, hm, handled⟩ | atEnd :=
          ih distinct.of_append before (same ▸ listens) earlier
        · cases holds.symm.trans apart
        · obtain queued | handled | ends := (requeues_step hs).stays queued
          · exact .inr (.inl queued)
          · exact .inr (.inr (.inl ⟨_, List.mem_append_right _ (List.mem_singleton_self _), handled⟩))
          · cases ends
            exact .inr (.inr (.inr (finish_step hs).1))
        · exact .inr (.inr (.inl ⟨m, List.mem_append_left _ hm, handled⟩))
        · exact .inr (.inr (.inr (Life.finished_step step atEnd)))

/-- Over a run that uses no identifier twice, when the connection is open and the queue is empty,
every route is that of a listener that holds its stream, waits for its answer or is gone. A
subscription that was acknowledged with success is held, or its answer waits to be taken, or an
`unsubscribe` request with its query was written after it, unless its listener is gone or has had
its `timeout`. For one of these no `unsubscribe` is ever handled; and if it is gone, the route stays
until the task finishes. -/
theorem subscriptions_are_accounted_for (run : History step (opened timeout ids) past s)
    (distinct : Distinct past) :
    (s.phase = .running → s.queue = [] →
      (∀ id route, s.router.routes.get? id = some route →
        ∃ caller, s.callers[route.caller]? = some caller ∧ caller.request.id = id ∧
          caller.listens = true ∧
          (caller.holds = true ∨ caller.awaits = true ∨ caller.stage = .gone)) ∧
      ∀ (number : Nat) (caller : Caller) (json : Json) (success : Success),
        s.callers[number]? = some caller → caller.listens = true →
        past.flatMap (framesFor caller.request.id) = [json] →
        Reply.outcomeOf (Reply.ofJson json) = .ok success →
          caller.holds = true ∨
          caller.awaits = true ∧ caller.answer = .filled (.ok success) ∨
          (∀ query, caller.request.query? = some query →
            Followed s.written caller.request query) ∨
          caller.Deserted) ∧
    ∀ (number : Nat) (caller : Caller), s.callers[number]? = some caller → caller.Deserted →
      (∀ m ∈ past, handled? m ≠ some (.unsubscribe caller.request.id)) ∧
      (caller.stage = .gone → caller.listens = true →
        Life.Acknowledged past caller.request.id →
        ∀ later t, History step s later t → Distinct (past ++ later) →
          t.router.routes.contains caller.request.id = true ∨ t.phase = .finished) := by
  obtain ⟨ordered, -, lives⟩ := lived_run run distinct
  refine ⟨?_, ?_⟩
  · intro running empty
    constructor
    · intro id route hr
      obtain ⟨ask, hask, rfl, listens⟩ := ordered.routes id route hr
      obtain ⟨c, hc, rfl⟩ := exists_caller hask
      have lived := lives _ c hc
      have routed : (s.life route.caller c).routed = true := Option.isSome_iff_exists.2 ⟨route, hr⟩
      have idle : (s.life route.caller c).errands = [] := by simp [life, empty]
      refine ⟨c, hc, rfl, listens, ?_⟩
      have behind := lived.tended.behind (.inr (.inr routed))
      simp only [idle, List.not_mem_nil, or_false] at behind
      exact behind
    · intro number caller json success found listens frames content
      have lived := lives number caller found
      obtain filled | deserted := lived.heeded frames
      · rw [content] at filled
        obtain waits | deserted | told := lived.tended.taken _ filled
        · exact .inr (.inl ⟨waits, filled⟩)
        · exact .inr (.inr (.inr deserted))
        · obtain holds | queued | ⟨m, hm, handled⟩ | atEnd := given_up run distinct found listens told
          · exact .inl holds
          · simp [empty] at queued
          · exact .inr (.inr (.inl fun query hq =>
              followed_of_handled run distinct running found hm handled hq))
          · cases running.symm.trans atEnd
      · exact .inr (.inr (.inr deserted))
  · intro number caller found deserted
    refine ⟨never_unsubscribed run distinct found deserted, ?_⟩
    intro gone listens acknowledged later t rest all
    have lived := lives number caller found
    obtain ⟨d, hd, still⟩ :=
      lives_on run Life.stranded_step found (lived.stranded listens gone acknowledged) rest all
    have name : d.request.id = caller.request.id := still.name
    exact still.routed.imp_left fun routed => name ▸ routed

/-- Two listeners. The first is abandoned before its subscription is acknowledged, and the second
drops its stream. -/
def departures : List Action :=
  [.beginNext true "subscribe" (Params.subscription ⟨"tm.event='NewBlock'"⟩),
    .beginNext true "subscribe" (Params.subscription ⟨"tm.event='Tx'"⟩), .submit 0, .submit 1,
    .handleNext none, .handleNext none, .abandon 0,
    .receive (.text "\x7b\"id\":\"5\",\"result\":\x7b\x7d\x7d"),
    .receive (.text "\x7b\"id\":\"6\",\"result\":\x7b\x7d\x7d"), .resume 1, .dropStream 1,
    .handleNext none]

theorem acknowledged_of_frames {id : RequestId} {success : Success}
    (frames : (past.flatMap (framesFor id)).map (fun json => Reply.outcomeOf (Reply.ofJson json)) =
      [.ok success]) : Life.Acknowledged past id := by
  obtain ⟨json, one, content⟩ := List.map_eq_singleton_iff.1 frames
  exact ⟨json, success, one, content⟩

theorem departures_are_accounted_for :
    ∃ s first second, (opened ⟨10⟩ ⟨5⟩).run departures = some s ∧ s.phase = .running ∧
      s.queue = [] ∧ s.callers = [first, second] ∧ first.stage = .gone ∧
      (s.router.routes.contains first.request.id = true ∨ s.phase = .finished) ∧
      second.holds = false ∧ Followed s.written second.request "tm.event='Tx'" ∧
      s.written.map (fun request => (request.id, request.method, request.query?)) =
        [(.text "5", "subscribe", some "tm.event='NewBlock'"),
          (.text "6", "subscribe", some "tm.event='Tx'"),
          (.text "7", "unsubscribe", some "tm.event='Tx'")] := by
  have possible : ((opened ⟨10⟩ ⟨5⟩).run departures).isSome = true := rfl
  obtain ⟨s, run⟩ := Option.isSome_iff_exists.1 possible
  have state : (((opened ⟨10⟩ ⟨5⟩).run departures).map fun s =>
      (s.phase, s.queue, s.written.map (fun request => (request.id, request.method, request.query?)),
        s.callers.map fun c => (c.listens, c.stage, c.holds, c.request.id, c.request.query?))) =
      some (.running, [],
        [(.text "5", "subscribe", some "tm.event='NewBlock'"),
          (.text "6", "subscribe", some "tm.event='Tx'"),
          (.text "7", "unsubscribe", some "tm.event='Tx'")],
        [(true, .gone, false, .text "5", some "tm.event='NewBlock'"),
          (true, .resolved (.ok ⟨.text "6", .object []⟩), false, .text "6",
            some "tm.event='Tx'")]) := rfl
  rw [run] at state
  obtain ⟨running, state⟩ := Prod.mk.inj (Option.some.inj state)
  obtain ⟨empty, state⟩ := Prod.mk.inj state
  obtain ⟨written, callers⟩ := Prod.mk.inj state
  obtain ⟨first, _, whole, one, others⟩ := List.map_eq_cons_iff.1 callers
  obtain ⟨second, _, rfl, two, others⟩ := List.map_eq_cons_iff.1 others
  cases List.map_eq_nil_iff.1 others
  simp only [Prod.mk.injEq] at one two
  obtain ⟨listens, gone, -, name, -⟩ := one
  obtain ⟨listens', told, apart, name', query⟩ := two
  have found : s.callers[0]? = some first := by rw [whole]; rfl
  have present : s.callers[1]? = some second := by rw [whole]; rfl
  have distinct : Distinct (moments step departures (opened ⟨10⟩ ⟨5⟩)) := by decide +kernel
  obtain ⟨open_, departed⟩ := subscriptions_are_accounted_for (history_of_run run) distinct
  have acknowledged : Life.Acknowledged (moments step departures (opened ⟨10⟩ ⟨5⟩))
      first.request.id := name ▸ acknowledged_of_frames rfl
  obtain ⟨json, success, frames, content⟩ : Life.Acknowledged
      (moments step departures (opened ⟨10⟩ ⟨5⟩)) second.request.id :=
    name' ▸ acknowledged_of_frames rfl
  refine ⟨s, first, second, run, running, empty, whole, gone, ?_, apart, ?_, written⟩
  · exact (departed 0 first found (.inl gone)).2 gone listens acknowledged [] s .start (by simpa)
  · obtain holds | ⟨waits, -⟩ | followed | deserted :=
      (open_ running empty).2 1 second json success present listens' frames content
    · cases holds.symm.trans apart
    · simp [Caller.awaits, told] at waits
    · exact followed _ query
    · obtain gone' | ⟨limit, expired⟩ := deserted
      · cases told.symm.trans gone'
      · cases told.symm.trans expired

/-- A listener that is abandoned before its subscription is acknowledged. -/
def departure : List Action :=
  [.beginNext true "subscribe" (Params.subscription ⟨"tm.event='NewBlock'"⟩), .submit 0,
    .handleNext none, .abandon 0,
    .receive (.text "\x7b\"id\":\"5\",\"result\":\x7b\x7d\x7d")]

/-- Its subscription is acknowledged and nobody holds it, waits for it or ends it: the queue is
empty, and nothing was written but its request. The route stays. -/
theorem departure_leaves_orphan :
    ∃ s caller, (opened ⟨10⟩ ⟨5⟩).run departure = some s ∧
      Distinct (moments step departure (opened ⟨10⟩ ⟨5⟩)) ∧ s.phase = .running ∧ s.queue = [] ∧
      s.callers = [caller] ∧ caller.holds = false ∧ caller.awaits = false ∧
      Life.Acknowledged (moments step departure (opened ⟨10⟩ ⟨5⟩)) caller.request.id ∧
      s.router.routes.contains caller.request.id = true ∧
      s.router.pending.contains caller.request.id = false ∧ s.written = [caller.request] := by
  have possible : ((opened ⟨10⟩ ⟨5⟩).run departure).isSome = true := rfl
  obtain ⟨s, run⟩ := Option.isSome_iff_exists.1 possible
  have state : (((opened ⟨10⟩ ⟨5⟩).run departure).map fun s =>
      (s.phase, s.queue, s.router.routes.contains (.text "5"), s.router.pending.contains (.text "5"),
        s.callers.map fun c => (c.holds, c.awaits, c.request.id, decide (s.written = [c.request])))) =
      some (.running, [], true, false, [(false, false, .text "5", true)]) := rfl
  rw [run] at state
  simp only [Option.map_some, Option.some.injEq, Prod.mk.injEq] at state
  obtain ⟨running, empty, routed, answered, callers⟩ := state
  obtain ⟨caller, _, whole, one, others⟩ := List.map_eq_cons_iff.1 callers
  cases List.map_eq_nil_iff.1 others
  simp only [Prod.mk.injEq, decide_eq_true_eq] at one
  obtain ⟨apart, idle, name, written⟩ := one
  have acknowledged : Life.Acknowledged (moments step departure (opened ⟨10⟩ ⟨5⟩))
      caller.request.id := name ▸ acknowledged_of_frames rfl
  exact ⟨s, caller, run, by decide +kernel, running, empty, whole, apart, idle, acknowledged,
    name ▸ routed, name ▸ answered, written⟩

end Socket

end Tendermint
