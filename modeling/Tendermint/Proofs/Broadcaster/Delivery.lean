import Tendermint.Proofs.Broadcaster.Effect

/-!
# Tendermint.Proofs.Broadcaster.Delivery

What the listeners of a broadcaster receive. There is one order of updates, that in which they
were accepted, and every listener follows it from the moment at which it subscribed.

* `accepted`, `readBy`: what a moment of a run adds to the updates and to what a listener read.
* `Follows`: a listener has its stream, and nothing that was sent to it is missing.
* `follows_step`: a listener follows whatever happens, its own departure aside.
* `follows_run`: so it does over every run.
* `deliveries_are_exact`: every listener, the value, and departures, over every run.
-/

namespace Tendermint

namespace Broadcaster

variable {α ε : Type}

/-- The update that is taken at a moment. -/
def accepted (m : Moment (Broadcaster α ε) (Action α ε)) : List α :=
  match m.action with
  | .publish a => if m.before.accepts then [a] else []
  | _ => []

/-- The value that a listener reads at a moment. -/
def readBy (id : Nat) (m : Moment (Broadcaster α ε) (Action α ε)) : List α :=
  match m.action with
  | .readNext i => if i = id then ((m.before.listener? id).map (·.unread.take 1)).getD [] else []
  | _ => []

/-- A listener has its stream. It has read some values, the stream still brings the rest of what
was sent, and it stays open until the broadcaster ends. -/
def Follows (id : Nat) (read sent : List α) (b : Broadcaster α ε) : Prop :=
  ∃ l, b.listener? id = some l ∧ l.attached = !b.isEnded ∧ read ++ l.unread = sent

/-! ## What each function leaves to a listener -/

section Follows

variable {id : Nat} {read sent : List α} {b c : Broadcaster α ε}

theorem Follows.of_eq (h : Follows id read sent b) (hl : c.listeners = b.listeners)
    (he : c.ending = b.ending) : Follows id read sent c := by
  simpa only [Follows, listener?, isEnded, hl, he] using h

theorem Follows.subscribe (h : Follows id read sent b) : Follows id read sent b.subscribe := by
  obtain ⟨l, hl, hopen, hsent⟩ := h
  exact ⟨l, by simp [listener?_subscribe, hl], by simpa [isEnded] using hopen, hsent⟩

theorem Follows.publish (h : Follows id read sent b) (a : α) :
    Follows id read (sent ++ if b.isEnded then [] else [a]) (b.publish a) := by
  obtain ⟨l, hl, hopen, rfl⟩ := h
  by_cases ended : b.isEnded = true
  · have same : b.publish a = b := by simp [Broadcaster.publish, ended]
    rw [same]
    exact ⟨l, hl, hopen, by simp [ended]⟩
  · have hattached : l.attached = true := by simpa [ended] using hopen
    have still : (b.publish a).isEnded = b.isEnded := by
      rw [publish_eq]
      rfl
    refine ⟨l.send a, by simp [listener?_publish, ended, hl], ?_, ?_⟩
    · simp [Listener.send, hattached, still, ended]
    · simp [Listener.send, hattached, ended]

theorem Follows.finish (h : Follows id read sent b) (ending : Ending ε) :
    Follows id read sent (b.finish ending) := by
  obtain ⟨l, hl, hopen, hsent⟩ := h
  by_cases ended : b.isEnded = true
  · have same : b.finish ending = b := by simp [Broadcaster.finish, ended]
    rw [same]
    exact ⟨l, hl, hopen, hsent⟩
  · refine ⟨l.detach, by simp [listener?_finish, ended, hl], ?_, hsent⟩
    simp [Listener.detach]

theorem Follows.readNext (h : Follows id read sent b) (i : Nat) :
    Follows id (read ++ readBy id ⟨b, .readNext i⟩) sent (b.readNext i) := by
  obtain ⟨l, hl, hopen, hsent⟩ := h
  by_cases hi : i = id
  · refine ⟨l.advance, by simp [listener?_readNext, hi, hl], hopen, ?_⟩
    rw [← hsent]
    simp only [readBy, hi, hl, Listener.advance, if_true, Option.map_some, Option.getD_some,
      List.append_assoc, List.append_cancel_left_eq]
    cases l.unread <;> rfl
  · exact ⟨l, by simp [listener?_readNext, hi, hl], hopen, by simpa [readBy, hi] using hsent⟩

theorem Follows.leave (h : Follows id read sent b) {i : Nat} (hi : id ≠ i) :
    Follows id read sent (b.leave i) := by
  obtain ⟨l, hl, hopen, hsent⟩ := h
  exact ⟨l, by simp [listener?_leave, hi, hl], by rw [leave_eq]; exact hopen, hsent⟩

/-- A new listener has the value of the moment before it. -/
theorem follows_subscribe (b : Broadcaster α ε) (fresh : b.listener? b.nextId = none) :
    Follows b.nextId [] [b.value] b.subscribe := by
  exact ⟨⟨b.nextId, [b.value], !b.isEnded⟩, by simp [listener?_subscribe, fresh],
    by simp [isEnded], rfl⟩

end Follows

/-! ## Steps and runs -/

/-- A listener follows whatever happens, its own departure aside. -/
theorem follows_step {id : Nat} {read sent : List α} {action : Action α ε} {b c : Broadcaster α ε}
    (h : Follows id read sent b) (hs : b.step action = some c) (stays : action ≠ .leave id) :
    Follows id (read ++ readBy id ⟨b, action⟩) (sent ++ accepted ⟨b, action⟩) c := by
  obtain ⟨d, hd, rfl⟩ := step_eq_some.1 hs
  suffices Follows id (read ++ readBy id ⟨b, action⟩) (sent ++ accepted ⟨b, action⟩) d from
    this.of_eq (by rw [collect_eq]) (by rw [collect_eq])
  have effect := effect_of_act hd
  cases action with
  | subscribe =>
    obtain ⟨-, -, rfl⟩ := effect
    simpa [readBy, accepted] using h.subscribe
  | publish a =>
    obtain ⟨alive, rfl⟩ := effect
    have takes : accepted ⟨b, .publish a⟩ = if b.isEnded then [] else [a] := by
      by_cases ended : b.isEnded = true <;> simp [accepted, accepts, ended, alive]
    simpa [readBy, takes] using h.publish a
  | finish ending =>
    obtain ⟨-, rfl⟩ := effect
    simpa [readBy, accepted] using h.finish ending
  | readNext i =>
    obtain ⟨-, rfl⟩ := effect
    simpa [accepted] using h.readNext i
  | leave i =>
    obtain ⟨-, rfl⟩ := effect
    have hi : id ≠ i := fun e => stays (e ▸ rfl)
    simpa [readBy, accepted] using h.leave hi
  | stop position =>
    obtain ⟨epoch, -, -, rfl⟩ := effect
    simpa [readBy, accepted] using h.of_eq (by rw [beginStop_eq]; rfl) (by rw [beginStop_eq]; rfl)
  | started | stopped | dropStop | share | release =>
    obtain ⟨-, rfl⟩ := effect
    simp only [readBy, accepted, List.append_nil]
    exact h.of_eq rfl rfl

/-- So does it over every run in which it does not leave. -/
theorem follows_run {id : Nat} {read sent : List α} {b c : Broadcaster α ε}
    {past : List (Moment (Broadcaster α ε) (Action α ε))} (h : Follows id read sent b)
    (run : History step b past c) (stays : ∀ m ∈ past, m.action ≠ .leave id) :
    Follows id (read ++ past.flatMap (readBy id)) (sent ++ past.flatMap accepted) c := by
  induction run with
  | start => simpa using h
  | @next past s t action _ hs ih =>
    have before := ih fun m hm => stays m (List.mem_append_left _ hm)
    have last : action ≠ .leave id := stays ⟨s, action⟩ (by simp)
    simpa using follows_step before hs last

theorem follows_of_subscribe {s t : Broadcaster α ε} (fresh : s.listener? s.nextId = none)
    (hs : s.step .subscribe = some t) : Follows s.nextId [] [s.value] t := by
  obtain ⟨d, hd, rfl⟩ := step_eq_some.1 hs
  obtain ⟨-, -, rfl⟩ := effect_of_act hd
  exact (follows_subscribe s fresh).of_eq (by rw [collect_eq]) (by rw [collect_eq])

/-- The value is the last that was accepted. -/
theorem value_step {action : Action α ε} {b c : Broadcaster α ε} (hs : b.step action = some c) :
    c.value = (accepted ⟨b, action⟩).getLast?.getD b.value := by
  obtain ⟨d, hd, rfl⟩ := step_eq_some.1 hs
  rw [collect_eq]
  have effect := effect_of_act hd
  cases action with
  | subscribe =>
    obtain ⟨-, -, rfl⟩ := effect
    simp [accepted]
  | publish a =>
    obtain ⟨alive, rfl⟩ := effect
    by_cases ended : b.isEnded = true <;> simp [accepted, accepts, ended, alive, publish]
  | stop position =>
    obtain ⟨epoch, -, -, rfl⟩ := effect
    rw [beginStop_eq]
    rfl
  | finish ending =>
    obtain ⟨-, rfl⟩ := effect
    rw [finish_eq]
    rfl
  | leave i =>
    obtain ⟨-, rfl⟩ := effect
    rw [leave_eq]
    rfl
  | readNext | started | stopped | dropStop | share | release =>
    obtain ⟨-, rfl⟩ := effect
    rfl

/-- No listener has a number that was not given out yet. -/
def Numbered (b : Broadcaster α ε) : Prop := ∀ id, b.nextId ≤ id → b.listener? id = none

theorem numbered_step {action : Action α ε} {b c : Broadcaster α ε} (h : Numbered b)
    (hs : b.step action = some c) : Numbered c := by
  obtain ⟨d, hd, rfl⟩ := step_eq_some.1 hs
  suffices Numbered d by
    rw [collect_eq]
    exact this
  have effect := effect_of_act hd
  obtain ⟨grows, next⟩ := nextId_act effect
  intro id hid
  refine listener?_act_eq_none effect (h id (Nat.le_trans grows hid)) fun own => ?_
  have := next own
  omega

theorem numbered_run {driven : Bool} {value : α} {b : Broadcaster α ε}
    {past : List (Moment (Broadcaster α ε) (Action α ε))}
    (run : History step (ofValue driven value) past b) : Numbered b :=
  run.invariant (fun _ _ => rfl) numbered_step

/-- Nothing but an end ends a broadcaster. -/
theorem ending_of_step {action : Action α ε} {b c : Broadcaster α ε} (hs : b.step action = some c)
    (quiet : ∀ ending, action ≠ .finish ending) :    c.ending = b.ending := by
  obtain ⟨d, hd, rfl⟩ := step_eq_some.1 hs
  rw [collect_eq]
  have effect := effect_of_act hd
  cases action with
  | subscribe =>
    obtain ⟨-, -, rfl⟩ := effect
    exact subscribe_ending b
  | publish a =>
    obtain ⟨-, rfl⟩ := effect
    rw [publish_eq]
  | finish ending => exact absurd rfl (quiet ending)
  | leave i =>
    obtain ⟨-, rfl⟩ := effect
    rw [leave_eq]
  | stop position =>
    obtain ⟨epoch, -, -, rfl⟩ := effect
    rw [beginStop_eq]
    rfl
  | readNext | started | stopped | dropStop | share | release =>
    obtain ⟨-, rfl⟩ := effect
    rfl

/-- Once a broadcaster has ended, its ending stays as it is and no update is accepted. -/
theorem ending_step {action : Action α ε} {b c : Broadcaster α ε} (ended : b.isEnded = true)
    (hs : b.step action = some c) : c.ending = b.ending ∧ accepted ⟨b, action⟩ = [] := by
  obtain ⟨d, hd, rfl⟩ := step_eq_some.1 hs
  rw [collect_eq]
  change d.ending = b.ending ∧ _
  have effect := effect_of_act hd
  cases action with
  | subscribe =>
    obtain ⟨-, -, rfl⟩ := effect
    exact ⟨subscribe_ending b, rfl⟩
  | publish a =>
    obtain ⟨-, rfl⟩ := effect
    exact ⟨by rw [publish_eq], by simp [accepted, accepts, ended]⟩
  | finish ending =>
    obtain ⟨-, rfl⟩ := effect
    exact ⟨by simp [finish, ended], rfl⟩
  | leave i =>
    obtain ⟨-, rfl⟩ := effect
    exact ⟨by rw [leave_eq], rfl⟩
  | stop position =>
    obtain ⟨epoch, -, -, rfl⟩ := effect
    exact ⟨by rw [beginStop_eq]; rfl, rfl⟩
  | readNext | started | stopped | dropStop | share | release =>
    obtain ⟨-, rfl⟩ := effect
    exact ⟨rfl, rfl⟩

theorem value_run {driven : Bool} {value : α} {b : Broadcaster α ε}
    {past : List (Moment (Broadcaster α ε) (Action α ε))}
    (run : History step (ofValue driven value) past b) :
    b.value = (past.flatMap accepted).getLast?.getD value := by
  induction run with
  | start => rfl
  | next _ hs ih =>
    rw [value_step hs, ih, List.flatMap_append, List.getLast?_append]
    cases h : (accepted _).getLast? <;> simp [h]

/-- Over every run, each listener that subscribed before the end is sent the value of that moment
and then every update that was accepted since, once and in the order of acceptance; it keeps its
stream until it leaves itself, and the stream is open until the broadcaster ends. The value is
the last one that was accepted, and nothing is accepted after the end. A departure takes away the
stream of the one that leaves and nothing else. -/
theorem deliveries_are_exact {driven : Bool} {value : α} {b : Broadcaster α ε}
    {past : List (Moment (Broadcaster α ε) (Action α ε))}
    (run : History step (ofValue driven value) past b) :
    (∀ earlier m later, past = earlier ++ m :: later → m.action = .subscribe →
      m.before.isEnded = false → (∀ n ∈ later, n.action ≠ .leave m.before.nextId) →
      ∃ l, b.listener? m.before.nextId = some l ∧ l.attached = !b.isEnded ∧
        later.flatMap (readBy m.before.nextId) ++ l.unread =
          m.before.value :: later.flatMap accepted) ∧
    b.value = (past.flatMap accepted).getLast?.getD value ∧
    (b.isEnded = true → ∀ action c, b.step action = some c →
      c.ending = b.ending ∧ accepted ⟨b, action⟩ = []) ∧
    ∀ i c, b.step (.leave i) = some c →
      c.value = b.value ∧ c.ending = b.ending ∧
        ∀ id, c.listener? id = if id = i then none else b.listener? id := by
  refine ⟨?_, value_run run, fun ended action c hs => ending_step ended hs, ?_⟩
  · rintro earlier ⟨s, action⟩ later rfl rfl - stays
    obtain ⟨t, before, hs, after⟩ := run.split_at
    have new := follows_of_subscribe (numbered_run before s.nextId (Nat.le_refl _)) hs
    exact follows_run new after stays
  · intro i c hs
    obtain ⟨d, hd, rfl⟩ := step_eq_some.1 hs
    obtain ⟨-, rfl⟩ := effect_of_act hd
    rw [collect_eq]
    exact ⟨by rw [leave_eq], by rw [leave_eq], listener?_leave b i⟩

/-- A producer that publishes from inside its start, a second listener, a departure and an end. -/
theorem deliveries_across_departure :
    ∃ b : Broadcaster Nat String,
      (ofValue true 0).run
        [.subscribe, .publish 1, .started, .subscribe, .publish 2, .leave 0, .publish 3,
          .readNext 1, .finish .completed] = some b ∧
      ∃ l, b.listener? 1 = some l ∧ l.attached = false ∧ [1] ++ l.unread = [1, 2, 3] := by
  have run : (ofValue true 0 : Broadcaster Nat String).run
      [.subscribe, .publish 1, .started, .subscribe, .publish 2, .leave 0, .publish 3,
        .readNext 1, .finish .completed] =
      some ⟨3, [⟨1, [2, 3], false⟩], 2, true, 2, some .completed, true, .none, [], 1, [.start]⟩ := by
    decide
  have past := (deliveries_are_exact (history_of_run run)).1
  exact ⟨_, run, past (moments step [.subscribe, .publish 1, .started] (ofValue true 0))
    ⟨⟨1, [⟨0, [0, 1], true⟩], 1, true, 1, none, true, .none, [], 1, [.start]⟩, .subscribe⟩
    (moments step [.publish 2, .leave 0, .publish 3, .readNext 1, .finish .completed]
      ⟨1, [⟨0, [0, 1], true⟩, ⟨1, [1], true⟩], 2, true, 2, none, true, .none, [], 1, [.start]⟩)
    rfl rfl rfl (by decide)⟩

end Broadcaster

end Tendermint
