import Tendermint.Proofs.Socket.Ownership

/-!
# Tendermint.Proofs.Socket.Reach

Which callers a step reaches, whatever identifiers they choose. What a caller does changes no other
caller, and what the task does reaches only the callers that its tables or its commands name.

* `Lists`, `Changes.unlisted`: the tables name a caller only for its own request.
* `Acts`, `own_step`: what an action of a caller changes.
* `deliveries_step`, `others_step`: the deliveries of a step.
-/

namespace Tendermint

namespace Socket

variable {s t : Socket} {action : Action} {n : Nat} {c : Caller}

/-- The tables name a caller. -/
def Lists (router : Router) (n : Nat) : Prop :=
  (∃ id entry, router.pending.get? id = some entry ∧ (entry = .call n ∨ entry = .subscribe n)) ∨
    ∃ id route, router.routes.get? id = some route ∧ route.caller = n

theorem entryFor_caller {k : Nat} {ask : Request × Bool}
    (names : entryFor k ask = .call n ∨ entryFor k ask = .subscribe n) : k = n :=
  Option.some.inj ((caller?_entryFor k ask).symm.trans (Pending.caller?_eq_some.2 names))

theorem Owned.listed (owned : s.Owned) (lists : Lists s.router n) : n < s.callers.length := by
  have small : ∀ {k : Nat} {ask : Request × Bool}, s.asked[k]? = some ask → k < s.callers.length := by
    intro k ask hask
    obtain ⟨hk, -⟩ := List.getElem?_eq_some_iff.1 hask
    simpa [asked] using hk
  obtain ⟨id, entry, found, names⟩ | ⟨id, route, found, rfl⟩ := lists
  · obtain ⟨_, rfl⟩ | ⟨k, ask, hask, -, rfl⟩ := owned.entry id entry found
    · simp at names
    · exact entryFor_caller names ▸ small hask
  · obtain ⟨ask, hask, -⟩ := owned.route id route found
    exact small hask

/-- Only the request of a caller, when it is handled, makes the tables name it. -/
theorem Changes.unlisted {m : Moment Socket Action} {router : Router} (h : Changes m router)
    (unlisted : ¬ Lists m.before.router n)
    (idle : ∀ ask, handled? m ≠ some (commandFor n ask)) : ¬ Lists router n := by
  have less : ∀ {other : Router},
      (∀ id entry, other.pending.get? id = some entry →
        m.before.router.pending.get? id = some entry ∨ ∃ sent, entry = .ignored sent) →
      (∀ id route, other.routes.get? id = some route →
        m.before.router.routes.get? id = some route) → ¬ Lists other n := by
    rintro other entries routes (⟨id, entry, found, names⟩ | ⟨id, route, found, names⟩)
    · obtain before | ⟨sent, rfl⟩ := entries id entry found
      · exact unlisted (.inl ⟨id, entry, before, names⟩)
      · simp at names
    · exact unlisted (.inr ⟨id, route, routes id route found, names⟩)
  cases h with
  | kept => exact unlisted
  | @noted k ask handled =>
    have apart : k ≠ n := by
      rintro rfl
      exact idle ask handled
    rintro (⟨id, entry, found, names⟩ | ⟨id, route, found, names⟩)
    · simp only [Socket.noted, Table.get?_insert] at found
      split at found
      · cases found
        exact apart (entryFor_caller names)
      · exact unlisted (.inl ⟨id, entry, found, names⟩)
    · simp only [Socket.noted] at found
      split at found
      · rw [Table.get?_insert] at found
        split at found
        · cases found
          exact apart names
        · exact unlisted (.inr ⟨id, route, found, names⟩)
      · exact unlisted (.inr ⟨id, route, found, names⟩)
  | parted => exact less (fun _ _ found => .inl found) fun _ _ found => Table.get?_of_erase found
  | unsubscribed =>
    refine less ?_ fun _ _ found => Table.get?_of_erase found
    intro id entry found
    simp only [Table.get?_insert] at found
    split at found
    · exact .inr ⟨_, (Option.some.inj found).symm⟩
    · exact .inl (Table.get?_of_keep found)
  | forgotten =>
    refine less ?_ fun _ _ found => Table.get?_of_erase found
    exact fun _ _ found => .inl (Table.get?_of_erase found)
  | answered =>
    refine less (fun _ _ found => .inl (Table.get?_of_erase found)) ?_
    intro id route found
    simp only at found
    split at found
    · exact Table.get?_of_erase found
    · exact found
  | ended => exact less (by rintro _ _ ⟨⟩) (by rintro _ _ ⟨⟩)

/-! ## Callers -/

/-- What a caller becomes by an action of its own. -/
inductive Acts (s : Socket) (c : Caller) : Action → Caller → Prop where
  | submit {n : Nat} (stage : c.stage = .admitted) :
      Acts s c (.submit n)
        (if s.phase = .finished then c.resolve (.error .notConnected)
        else { c with stage := .waiting s.now })
  | resume {n : Nat} {outcome : Except RpcError Success} (waits : c.awaits = true)
      (found : outcome? c.answer = some outcome) : Acts s c (.resume n) (c.resolve outcome)
  | expire {n : Nat} (waits : c.awaits = true) :
      Acts s c (.expire n) (c.resolve (.error (.timeout s.timeout)))
  | abandon {n : Nat} (waits : c.awaits = true) : Acts s c (.abandon n) { c with stage := .gone }
  | read {n : Nat} (holds : c.holds = true) :
      Acts s c (.read n) { c with feed := { c.feed with unread := c.feed.unread.tail } }
  | dropStream {n : Nat} (holds : c.holds = true) :
      Acts s c (.dropStream n) { c with holds := false }

theorem callerStep_acts (hc : s.callers[n]? = some c) (h : s.callerStep n c action = some t) :
    ∃ d, t.callers[n]? = some d ∧ Acts s c action d := by
  have modified : ∀ (u : Socket) (f : Caller → Caller), u.callers = s.callers →
      (u.modifyCaller n f).callers[n]? = some (f c) := by
    intro u f callers
    rw [getElem?_modifyCaller, if_pos rfl, callers, hc, Option.map_some]
  have waits : ∀ {since : Duration}, c.stage = .waiting since → c.awaits = true := by
    intro since stage
    rw [Caller.awaits, stage]
  cases action with
  | submit =>
    simp only [callerStep] at h
    split at h
    · rename_i stage
      cases Option.some.inj h
      refine ⟨_, ?_, .submit stage⟩
      rw [submitFrom_eq]
      split
      · exact modified s _ rfl
      · exact modified _ _ rfl
    · cases h
  | resume =>
    simp only [callerStep] at h
    split at h
    · rename_i stage found
      cases Option.some.inj h
      exact ⟨_, modified s _ rfl, .resume (waits stage) found⟩
    · cases h
  | expire =>
    simp only [callerStep] at h
    split at h
    · rename_i stage
      obtain ⟨-, h⟩ := Option.ite_none_right_eq_some.1 h
      cases Option.some.inj h
      exact ⟨_, modified _ _ (by rw [enqueue_eq]), .expire (waits stage)⟩
    · cases h
  | abandon =>
    simp only [callerStep] at h
    split at h
    · rename_i stage
      cases Option.some.inj h
      exact ⟨_, modified s _ rfl, .abandon (waits stage)⟩
    · cases h
  | read =>
    obtain ⟨holds, h⟩ := Option.ite_none_right_eq_some.1 h
    cases Option.some.inj h
    exact ⟨_, modified s _ rfl, .read holds⟩
  | dropStream =>
    obtain ⟨holds, h⟩ := Option.ite_none_right_eq_some.1 h
    cases Option.some.inj h
    exact ⟨_, modified _ _ (by rw [enqueue_eq]), .dropStream holds⟩
  | _ => cases h

/-- An action of a caller changes this caller, and puts commands of its own into the queue. -/
theorem own_step (hs : s.step action = some t) (actor : action.caller? = some n) :
    ∃ c d, s.callers[n]? = some c ∧ t.callers[n]? = some d ∧ Acts s c action d ∧
      (∀ k, k ≠ n → t.callers[k]? = s.callers[k]?) ∧ t.router = s.router ∧
      t.written = s.written ∧
      t.queue = s.queue ++ if s.phase = .finished then [] else handed n c action := by
  unfold step at hs
  rw [actor] at hs
  cases found : s.callers[n]? with
  | none => simp [found] at hs
  | some c =>
    replace hs : s.callerStep n c action = some t := by simpa [found] using hs
    obtain ⟨d, hd, acts⟩ := callerStep_acts found hs
    have queue := callerStep_queue hs
    obtain ⟨commands, f, rfl, -, -⟩ := callerStep_eq hs
    refine ⟨c, d, rfl, hd, acts, ?_, rfl, rfl, queue⟩
    intro k apart
    rw [getElem?_modifyCaller, if_neg (Ne.symm apart)]

/-! ## Deliveries -/

/-- Whom the tables, or a command that is handled or thrown away, name at a moment. -/
def Named (m : Moment Socket Action) (n : Nat) : Prop :=
  Lists m.before.router n ∨ (∃ ask, handled? m = some (commandFor n ask)) ∨
    m.action = .finish ∧ ∃ ask, commandFor n ask ∈ m.before.queue

theorem listed_of_dropPending {router : Router} (id : RequestId) {entry : Option Pending}
    (found : ∀ e, entry = some e → router.pending.get? id = some e) :
    ∀ d ∈ Router.dropPending entry, Lists router d.caller := by
  intro d hd
  unfold Router.dropPending at hd
  split at hd
  · rw [List.mem_singleton.1 hd]
    exact .inl ⟨id, _, found _ rfl, .inl rfl⟩
  · rw [List.mem_singleton.1 hd]
    exact .inl ⟨id, _, found _ rfl, .inr rfl⟩
  · cases hd

theorem listed_of_dropRoute {router : Router} (id : RequestId) :
    ∀ d ∈ Router.dropRoute (router.routes.get? id), Lists router d.caller := by
  intro d hd
  cases found : router.routes.get? id with
  | none => simp [found, Router.dropRoute] at hd
  | some route =>
    rw [found] at hd
    rw [List.mem_singleton.1 hd]
    exact .inr ⟨id, route, found, rfl⟩

theorem listed_of_route {router : Router} {name : RequestId} {json : Json} :
    ∀ d ∈ (router.route name json).2, Lists router d.caller := by
  intro d hd
  cases Router.tells_of_route d hd with
  | answer found waits => exact .inl ⟨name, _, found, Pending.caller?_eq_some.1 waits⟩
  | endFeed found => exact .inr ⟨name, _, found, rfl⟩
  | event _ found => exact .inr ⟨name.key, _, found, rfl⟩

theorem listed_of_shutdown {router : Router} : ∀ d ∈ router.shutdown.2, Lists router d.caller := by
  intro d hd
  obtain closing | closing := List.mem_append.1 hd
  · obtain ⟨⟨id, entry⟩, he, mine⟩ := List.mem_flatMap.1 closing
    have found := Table.get?_eq_some.2 he
    cases entry with
    | call k =>
      rw [List.mem_singleton.1 mine]
      exact .inl ⟨id, _, found, .inl rfl⟩
    | subscribe k =>
      rw [List.mem_singleton.1 mine]
      exact .inl ⟨id, _, found, .inr rfl⟩
    | ignored at_ => cases mine
  · obtain ⟨⟨id, route⟩, hr, mine⟩ := List.mem_flatMap.1 closing
    have named : d.caller = route.caller := by
      simp only [Router.closeRoute, List.mem_cons, List.not_mem_nil, or_false] at mine
      obtain rfl | rfl := mine <;> rfl
    exact .inr ⟨id, route, Table.get?_eq_some.2 hr, named.symm⟩

theorem asker_of_discarded {queue : List SocketCommand} :
    ∀ d ∈ queue.flatMap discarded, ∃ ask, commandFor d.caller ask ∈ queue := by
  intro d hd
  obtain ⟨command, queued, mine⟩ := List.mem_flatMap.1 hd
  cases command with
  | call request k =>
    rw [List.mem_singleton.1 mine]
    exact ⟨(request, false), queued⟩
  | listen request k =>
    have named : d.caller = k := by
      simp only [discarded, List.mem_cons, List.not_mem_nil, or_false] at mine
      obtain rfl | rfl := mine <;> rfl
    exact ⟨(request, true), named ▸ queued⟩
  | _ => cases mine

theorem unsubscribe_deliveries (fault : Option NetworkFault) (id : RequestId) (s : Socket) :
    ∃ ds, (s.handle fault (.unsubscribe id)).callers = (s.deliver ds).callers ∧
      ∀ d ∈ ds, Lists s.router d.caller := by
  let parted := s.withRouter (s.router.takeRoute id).2
  have told : parted.callers = (s.deliver (Router.dropRoute (s.router.routes.get? id))).callers :=
    callers_deliver _ rfl
  have left : parted.router.pending = s.router.pending := by
    simp only [parted, withRouter]
    rw [deliver_eq]
    rfl
  have ends : ∀ d ∈ Router.dropRoute (s.router.routes.get? id), Lists s.router d.caller :=
    listed_of_dropRoute id
  simp only [handle]
  split
  · exact ⟨_, told, ends⟩
  · split
    · exact ⟨_, told, ends⟩
    · let kept := parted.router.expireIgnored parted.now parted.timeout
      refine ⟨Router.dropRoute (s.router.routes.get? id) ++
        Router.dropPending (kept.pending.get? parted.ids.take.1), ?_, ?_⟩
      · rw [deliver_append]
        exact callers_deliver _ told
      · intro d hd
        obtain hd | hd := List.mem_append.1 hd
        · exact ends d hd
        · refine listed_of_dropPending parted.ids.take.1 ?_ d hd
          intro entry found
          simp only [kept, Router.expireIgnored] at found
          exact left ▸ Table.get?_of_keep found

/-- What is delivered in a step, other than one in which a caller comes or acts, is for those whom
the tables or the command of the step name. -/
theorem deliveries_step (hs : s.step action = some t) (nobody : action.caller? = none)
    (comes : t.asked = s.asked) :
    ∃ ds, t.callers = (s.deliver ds).callers ∧ ∀ d ∈ ds, Named ⟨s, action⟩ d.caller := by
  cases Happens.of_step hs with
  | comes | comesNext =>
    rw [asked_beginWith] at comes
    simp [asked] at comes
  | @handled fault command rest _ queue =>
    have handled := handled?_of_queue queue fault
    have asked : ∀ k ask, command = commandFor k ask → ∃ ds,
        ({ s with queue := rest }.handle fault command).callers = (s.deliver ds).callers ∧
          ∀ d ∈ ds, Named ⟨s, .handleNext fault⟩ d.caller := by
      rintro k ask rfl
      have named : ∀ error, ∀ d ∈ [Delivery.answer k (.error error), .endFeed k],
          Named ⟨s, .handleNext fault⟩ d.caller := by
        intro error d hd
        have own : d.caller = k := by
          simp only [List.mem_cons, List.not_mem_nil, or_false] at hd
          obtain rfl | rfl := hd <;> rfl
        exact .inr (.inl ⟨ask, own ▸ handled⟩)
      cases free : s.router.isOutstanding ask.1.id with
      | true =>
        rw [handle_taken (s := { s with queue := rest }) fault free]
        exact ⟨_, callers_deliver _ rfl, named _⟩
      | false =>
        rw [handle_ask (s := { s with queue := rest }) fault free]
        cases fault with
        | some fault => exact ⟨_, callers_deliver _ rfl, named (.webSocket fault)⟩
        | none => exact ⟨[], rfl, by simp⟩
    cases command with
    | call request k => exact asked k (request, false) rfl
    | listen request k => exact asked k (request, true) rfl
    | unsubscribe id =>
      obtain ⟨ds, callers, named⟩ := unsubscribe_deliveries fault id { s with queue := rest }
      exact ⟨ds, callers.trans (callers_deliver ds rfl), fun d hd => .inl (named d hd)⟩
    | forget id =>
      refine ⟨_, callers_deliver _ rfl, ?_⟩
      intro d hd
      obtain hd | hd := List.mem_append.1 hd
      · exact .inl (listed_of_dropPending id (fun _ found => found) d hd)
      · exact .inl (listed_of_dropRoute id d hd)
    | disconnect => exact ⟨[], rfl, by simp⟩
  | received =>
    rw [receive_eq]
    split
    · exact ⟨_, callers_deliver _ rfl, fun d hd => .inl (listed_of_route d hd)⟩
    · exact ⟨[], rfl, by simp⟩
  | finished =>
    rw [finish_eq]
    refine ⟨_, callers_deliver _ rfl, ?_⟩
    intro d hd
    obtain hd | hd := List.mem_append.1 hd
    · exact .inl (listed_of_shutdown d hd)
    · exact .inr (.inr ⟨rfl, asker_of_discarded d hd⟩)
  | asked =>
    rw [enqueue_eq]
    exact ⟨[], rfl, by simp⟩
  | acts actor => cases nobody.symm.trans actor
  | _ => exact ⟨[], rfl, by simp⟩

/-- A step in which a caller does not act changes it by what is delivered to it. -/
theorem others_step (hs : s.step action = some t) (other : action.caller? ≠ some n)
    (hc : s.callers[n]? = some c) :
    ∃ ds, t.callers[n]? = some (c.reached ds) ∧ (¬ Named ⟨s, action⟩ n → ds = []) := by
  cases actor : action.caller? with
  | some k =>
    obtain ⟨-, -, -, -, -, apart, -⟩ := own_step hs actor
    have away : n ≠ k := by
      rintro rfl
      exact other actor
    exact ⟨[], by rw [apart n away, hc]; rfl, fun _ => rfl⟩
  | none =>
    obtain same | ⟨listens, request, ids, rfl, -⟩ := callers_step hs
    · obtain ⟨ds, callers, named⟩ := deliveries_step hs actor same
      refine ⟨_, by rw [callers, getElem?_deliver, hc, Option.map_some], ?_⟩
      intro unnamed
      rw [List.filter_eq_nil_iff]
      intro d hd own
      exact unnamed (of_decide_eq_true own ▸ named d hd)
    · exact ⟨[], getElem?_beginWith hc, fun _ => rfl⟩

end Socket

end Tendermint
