import Tendermint.Proofs.Broadcaster.Debounce
import Tendermint.Proofs.Broadcaster.Delivery

/-!
# Tendermint.Proofs.Broadcaster.Ending

The end of a broadcaster is final. The first end counts, and whatever is done after it, the end, the
value and the calls of the producer's start stay as they are. Nothing is sent to anybody any more:
each stream brings what was sent to it before, a later one just the last value, and then it ends.

* `Settled`: what does not change after an end; `settled_finish`, `settled_step`, `settled_run`.
* `Drains`: a stream that brings some values more and then ends.
* `ending_is_final`.
-/

namespace Tendermint

namespace Broadcaster

variable {α ε : Type}

/-! ## What stays as it is -/

section Settled

variable {action : Action α ε} {b c d : Broadcaster α ε}

theorem unstarted_act (ended : b.isEnded = true) (effect : Effect action b d) :
    (d.active = true → b.active = true) ∧ d.calls.count .start = b.calls.count .start := by
  cases action with
  | subscribe =>
    obtain ⟨-, -, rfl⟩ := effect
    rw [Broadcaster.subscribe, if_pos ended]
    exact ⟨id, rfl⟩
  | publish a =>
    obtain ⟨-, rfl⟩ := effect
    rw [publish_eq]
    exact ⟨id, rfl⟩
  | finish ending =>
    obtain ⟨-, rfl⟩ := effect
    rw [finish_eq]
    exact ⟨id, rfl⟩
  | leave i =>
    obtain ⟨-, rfl⟩ := effect
    rw [leave_eq]
    exact ⟨id, rfl⟩
  | stop position =>
    obtain ⟨epoch, -, -, rfl⟩ := effect
    obtain same | ⟨-, -, running, stopped⟩ := beginStop_cases (b.withoutStop position) epoch
    · rw [same]
      exact ⟨id, rfl⟩
    · rw [stopped]
      refine ⟨fun _ => running, ?_⟩
      cases driven : b.driven <;> simp [withoutStop, driven]
  | started | readNext | stopped | dropStop | share | release =>
    obtain ⟨-, rfl⟩ := effect
    exact ⟨id, rfl⟩

/-- Once a broadcaster has ended, nobody makes it active or starts its producer. -/
theorem unstarted_step (ended : b.isEnded = true) (hs : b.step action = some c) :
    (c.active = true → b.active = true) ∧ c.calls.count .start = b.calls.count .start := by
  obtain ⟨d, hd, rfl⟩ := step_eq_some.1 hs
  obtain ⟨active, starts⟩ := unstarted_act ended (effect_of_act hd)
  obtain same | ⟨-, -, stopped⟩ := collect_cases d
  · rw [same]
    exact ⟨active, starts⟩
  · rw [stopped]
    refine ⟨by rintro ⟨⟩, ?_⟩
    rw [← starts]
    cases d.driven <;> simp

/-- A broadcaster that has ended, as it was left by the end. -/
structure Settled (b : Broadcaster α ε) (ending : Ending ε) (d : Broadcaster α ε) : Prop where
  ending : d.ending = some ending
  value : d.value = b.value
  /-- Nobody is listened to, and nobody has registered since. -/
  nobody : d.attached = []
  epoch : d.epoch = b.epoch
  /-- The producer was not started again. -/
  starts : d.calls.count .start = b.calls.count .start
  active : d.active = true → b.active = true

theorem settled_finish {ending : Ending ε} (before : b.isEnded = false)
    (hs : b.step (.finish ending) = some c) : Settled b ending c := by
  obtain ⟨d, hd, rfl⟩ := step_eq_some.1 hs
  obtain ⟨reached, rfl⟩ := effect_of_act hd
  rw [collect_of_reached (by rw [isAbandoned_finish, reached]), finish, if_neg (by simp [before])]
  exact ⟨rfl, rfl, by simp [attached, Listener.detach], rfl, rfl, id⟩

theorem Settled.isEnded {ending : Ending ε} (h : Settled b ending d) : d.isEnded = true := by
  rw [Broadcaster.isEnded, h.ending, Option.isSome_some]

theorem settled_step {ending : Ending ε} (h : Settled b ending c) (hs : c.step action = some d) :
    Settled b ending d := by
  have unheard : registers ⟨c, action⟩ = false := by
    cases action <;> simp [registers, h.isEnded]
  obtain ⟨ending, refused⟩ := ending_step h.isEnded hs
  obtain ⟨active, starts⟩ := unstarted_step h.isEnded hs
  refine ⟨ending.trans h.ending, ?_, attached_step hs h.nobody unheard, ?_, starts.trans h.starts,
    fun on => h.active (active on)⟩
  · rw [value_step hs, refused]
    exact h.value
  · rw [(account_step hs).1, unheard, h.epoch]
    rfl

theorem settled_run {ending : Ending ε} {later : List (Moment (Broadcaster α ε) (Action α ε))}
    (h : Settled b ending c) (run : History step c later d) : Settled b ending d :=
  run.invariant h settled_step

/-- Nothing is accepted any more. -/
theorem silent_run {ending : Ending ε} {later : List (Moment (Broadcaster α ε) (Action α ε))}
    (h : Settled b ending c) (run : History step c later d) : later.flatMap accepted = [] := by
  induction run with
  | start => rfl
  | next before hs ih =>
    rw [List.flatMap_append, ih, List.flatMap_singleton, List.nil_append]
    exact (ending_step (settled_run h before).isEnded hs).2

/-- Nothing that is said to a broadcaster after its end changes anything. -/
theorem Settled.unchanged {ending : Ending ε} (h : Settled b ending c)
    (said : (∃ a, action = .publish a) ∨ ∃ other, action = .finish other)
    (hs : c.step action = some d) : d = c := by
  obtain ⟨e, he, rfl⟩ := step_eq_some.1 hs
  obtain ⟨a, rfl⟩ | ⟨other, rfl⟩ := said
  · obtain ⟨reached, rfl⟩ := effect_of_act he
    rw [collect_of_reached (by rw [isAbandoned_publish, reached]), publish, if_pos h.isEnded]
  · obtain ⟨reached, rfl⟩ := effect_of_act he
    rw [collect_of_reached (by rw [isAbandoned_finish, reached]), finish, if_pos h.isEnded]

end Settled

/-! ## What the streams bring -/

/-- A stream has brought some values. It brings the rest of what was sent to it and then ends: a
poll of it finds the next value or the end, and its listener can read on to there. -/
def Drains (id : Nat) (read sent : List α) (b : Broadcaster α ε) : Prop :=
  ∃ l, b.listener? id = some l ∧ read ++ l.unread = sent ∧
    (l.poll = match l.unread with | [] => .ended | a :: _ => .value a) ∧
    (b.holds id = true → ∃ c, b.run (List.replicate l.unread.length (.readNext id)) = some c ∧
      (c.listener? id).map Listener.poll = some .ended)

section Drains

variable {id : Nat} {b c : Broadcaster α ε} {l : Listener α}

theorem isAbandoned_of_listener? (found : b.listener? id = some l) : b.isAbandoned = false := by
  rw [Bool.eq_false_iff, Ne, isAbandoned_iff]
  rintro ⟨-, nobody, -⟩
  rw [listener?, nobody] at found
  cases found

theorem step_readNext (held : b.holds id = true) (found : b.listener? id = some l) :
    b.step (.readNext id) = some (b.readNext id) := by
  have still : (b.readNext id).listener? id = some l.advance := by
    rw [listener?_readNext, if_pos rfl, found, Option.map_some]
  rw [step, act, if_pos held, Option.map_some, collect_of_reached (isAbandoned_of_listener? still)]

/-- A stream that is closed can be read up to its end. -/
theorem reads_to_end {unread : List α} (held : b.holds id = true)
    (found : b.listener? id = some ⟨id, unread, false⟩) :
    ∃ c, b.run (List.replicate unread.length (.readNext id)) = some c ∧
      (c.listener? id).map Listener.poll = some .ended := by
  induction unread generalizing b with
  | nil => exact ⟨b, rfl, by rw [found]; rfl⟩
  | cons a rest ih =>
    have advanced : (b.readNext id).listener? id = some ⟨id, rest, false⟩ := by
      rw [listener?_readNext, if_pos rfl, found]
      rfl
    have still : (b.readNext id).holds id = true := by
      rw [holds, advanced]
      exact (Bool.and_eq_true_iff.1 held).2
    obtain ⟨c, ran, ended⟩ := ih still advanced
    refine ⟨c, ?_, ended⟩
    rw [List.length_cons, List.replicate_succ, run, step_readNext held found, Option.bind_some, ran]

theorem follows_finish {ending : Ending ε} (first : b.isEnded = false)
    (hs : b.step (.finish ending) = some c) (found : b.listener? id = some l) :
    Follows id [] l.unread c := by
  obtain ⟨d, hd, rfl⟩ := step_eq_some.1 hs
  obtain ⟨-, rfl⟩ := effect_of_act hd
  have closed : Follows id [] l.unread (b.finish ending) :=
    ⟨l.detach, by rw [listener?_finish, if_neg (by simp [first]), found, Option.map_some],
      by rw [finish_isEnded]; rfl, rfl⟩
  exact closed.of_eq (by rw [collect_eq]) (by rw [collect_eq])

/-- A listener that follows a broadcaster to its end reads the rest and then finds the end. -/
theorem Follows.drains {read sent : List α} (h : Follows id read sent b)
    (ended : b.isEnded = true) : Drains id read sent b := by
  obtain ⟨l, found, closed, whole⟩ := h
  rw [ended, Bool.not_true] at closed
  refine ⟨l, found, whole, ?_, fun held => reads_to_end held ?_⟩
  · rw [Listener.poll, closed]
    cases l.unread <;> rfl
  · have named : l.id = id := by simpa using List.find?_some found
    rw [found, ← named, ← closed]

end Drains

/-- The end of a broadcaster is final. From the first one on, whatever happens later, in any order:
the end, the error and the value stay as they are; every update is refused, and neither an update
nor another end changes anything; nobody is listened to, no later subscription registers a listener
or starts the producer. Every stream that was open at that moment brings what had been sent to it
before and then ends, and every later one brings just the last value and then ends; both as long as
nobody gives them up. -/
theorem ending_is_final {driven : Bool} {value : α} {ending : Ending ε} {b c d : Broadcaster α ε}
    {past later : List (Moment (Broadcaster α ε) (Action α ε))}
    (run : History step (ofValue driven value) past b) (first : b.isEnded = false)
    (hs : b.step (.finish ending) = some c) (after : History step c later d) :
    Settled b ending d ∧
    (∀ e, d.error? = some e ↔ ending = .failed e) ∧
    d.accepts = false ∧ d.listenerCount = 0 ∧
    (∀ action e, ((∃ a, action = .publish a) ∨ ∃ other, action = .finish other) →
      d.step action = some e → e = d) ∧
    (∀ id l, b.listener? id = some l → (∀ n ∈ later, n.action ≠ .leave id) →
      Drains id (later.flatMap (readBy id)) l.unread d) ∧
    ∀ earlier n rest, later = earlier ++ n :: rest → n.action = .subscribe →
      (∀ m ∈ rest, m.action ≠ .leave n.before.nextId) →
      Drains n.before.nextId (rest.flatMap (readBy n.before.nextId)) [b.value] d := by
  have settled := settled_run (settled_finish first hs) after
  refine ⟨settled, ?_, ?_, ?_, fun _ _ said stepped => settled.unchanged said stepped, ?_, ?_⟩
  · intro e
    rw [error?, settled.ending]
    cases ending <;> simp
  · rw [accepts, settled.isEnded]
    rfl
  · rw [listenerCount, settled.nobody]
    rfl
  · intro id l found stays
    have follows := follows_run (follows_finish first hs found) after stays
    rw [silent_run (settled_finish first hs) after, List.append_nil] at follows
    exact follows.drains settled.isEnded
  · rintro earlier ⟨s, action⟩ rest rfl rfl stays
    obtain ⟨t, before, stepped, rests⟩ := after.split_at
    have still := settled_run (settled_finish first hs) before
    have new := follows_of_subscribe
      (numbered_run ((run.next hs).append before) s.nextId (Nat.le_refl _)) stepped
    have follows := follows_run new rests stays
    rw [silent_run (settled_step still stepped) rests, List.append_nil, still.value] at follows
    exact follows.drains settled.isEnded

/-- The end comes from inside the start, for a listener that does not have its stream yet; another
end, an update, a subscription and a departure follow. -/
theorem end_inside_start_is_final :
    ∃ b c d : Broadcaster Nat String,
      (ofValue true 0).run [.subscribe, .publish 1] = some b ∧
      b.step (.finish (.failed "lost")) = some c ∧
      c.run [.started, .finish .completed, .publish 2, .subscribe, .readNext 0, .subscribe,
        .leave 1, .readNext 2] = some d ∧
      d.error? = some "lost" ∧ d.value = 1 ∧ d.calls.count .start = 1 ∧
      Drains 0 [0] [0, 1] d ∧ Drains 2 [1] [1] d := by
  have run : (ofValue true 0 : Broadcaster Nat String).run [.subscribe, .publish 1] =
      some ⟨1, [⟨0, [0, 1], true⟩], 1, true, 1, none, true, .starting 0, [], 1, [.start]⟩ := by
    decide
  have hs : (⟨1, [⟨0, [0, 1], true⟩], 1, true, 1, none, true, .starting 0, [], 1, [.start]⟩ :
      Broadcaster Nat String).step (.finish (.failed "lost")) =
      some ⟨1, [⟨0, [0, 1], false⟩], 1, true, 1, some (.failed "lost"), true, .starting 0, [], 1,
        [.start]⟩ := by
    decide
  have after : (⟨1, [⟨0, [0, 1], false⟩], 1, true, 1, some (.failed "lost"), true, .starting 0, [],
      1, [.start]⟩ : Broadcaster Nat String).run
      [.started, .finish .completed, .publish 2, .subscribe, .readNext 0, .subscribe, .leave 1,
        .readNext 2] =
      some ⟨1, [⟨0, [1], false⟩, ⟨2, [], false⟩], 3, true, 1, some (.failed "lost"), true, .none,
        [1], 1, [.start]⟩ := by
    decide
  obtain ⟨settled, error, -, -, -, earlier, later⟩ :=
    ending_is_final (history_of_run run) rfl hs (history_of_run after)
  refine ⟨_, _, _, run, hs, after, (error _).2 rfl, settled.value, settled.starts, ?_, ?_⟩
  · exact earlier 0 ⟨0, [0, 1], true⟩ rfl (by decide)
  · exact later (moments step [.started, .finish .completed, .publish 2, .subscribe, .readNext 0]
      ⟨1, [⟨0, [0, 1], false⟩], 1, true, 1, some (.failed "lost"), true, .starting 0, [], 1,
        [.start]⟩)
      ⟨⟨1, [⟨0, [1], false⟩, ⟨1, [1], false⟩], 2, true, 1, some (.failed "lost"), true, .none, [],
        1, [.start]⟩, .subscribe⟩ _ rfl rfl (by decide)

end Broadcaster

end Tendermint
