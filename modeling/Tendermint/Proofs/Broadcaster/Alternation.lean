import Tendermint.Proofs.Broadcaster.Effect

/-!
# Tendermint.Proofs.Broadcaster.Alternation

The calls of a producer take turns. A start is due when the number of calls so far is even and a
stop when it is odd, and `active` says which: that is the invariant (`Alternating`). What can
call the producer is a subscription, a stop that was put off, and the collection of a broadcaster
that nobody can reach; each does so only where its call is due.

* `alternating_step`: every step keeps the invariant.
* `calls_step`: a step makes one call at most, and none while another is under way.
* `producer_calls_alternate`: the calls of every run.
-/

namespace Tendermint

namespace Broadcaster

variable {α ε : Type}

/-- The call that is due after so many. -/
def turn (n : Nat) : ProducerCall := if n % 2 = 0 then .start else .stop

/-- So many calls that take turns, a start first. -/
def turns (n : Nat) : List ProducerCall := (List.range n).map turn

theorem turns_succ (n : Nat) : turns (n + 1) = turns n ++ [turn n] := by
  simp [turns, List.range_succ]

theorem turn_eq_start {n : Nat} : turn n = .start ↔ n % 2 = 0 := by
  rw [turn]
  split
  · next even => exact ⟨fun _ => even, fun _ => rfl⟩
  · next odd => exact ⟨nofun, fun even => absurd even odd⟩

theorem getElem?_turns {n i : Nat} {call : ProducerCall} (h : (turns n)[i]? = some call) :
    i < n ∧ turn i = call := by
  rw [turns, List.getElem?_map] at h
  obtain ⟨j, hj, rfl⟩ := Option.map_eq_some_iff.1 h
  obtain ⟨inside, rfl⟩ := List.getElem?_eq_some_iff.1 hj
  rw [List.length_range] at inside
  rw [List.getElem_range]
  exact ⟨inside, rfl⟩

theorem count_turns (n : Nat) :
    (turns n).count .start = (n + 1) / 2 ∧ (turns n).count .stop = n / 2 := by
  induction n with
  | zero => exact ⟨rfl, rfl⟩
  | succ n ih =>
    rw [turns_succ, List.count_append, List.count_append, ih.1, ih.2]
    by_cases h : n % 2 = 0
    · have due : turn n = .start := if_pos h
      rw [due]
      constructor
      · change (n + 1) / 2 + 1 = _
        omega
      · change n / 2 + 0 = _
        omega
    · have due : turn n = .stop := if_neg h
      rw [due]
      constructor
      · change (n + 1) / 2 + 0 = _
        omega
      · change n / 2 + 1 = _
        omega

theorem getLast?_turns (n : Nat) : (turns n).getLast? = some .start ↔ n % 2 = 1 := by
  cases n with
  | zero => simp [turns]
  | succ n =>
    rw [turns_succ, List.getLast?_concat, Option.some.injEq]
    by_cases h : n % 2 = 0
    · have due : turn n = .start := if_pos h
      rw [due]
      exact ⟨fun _ => by omega, fun _ => rfl⟩
    · have due : turn n = .stop := if_neg h
      rw [due]
      exact ⟨nofun, fun _ => by omega⟩

/-- The calls of a producer take turns, and it is active when a stop is due. A call that is under
way is the last one, and a start keeps its listener. -/
structure Alternating (b : Broadcaster α ε) : Prop where
  driven : b.driven = true
  calls : b.calls = turns b.calls.length
  active : b.active = true ↔ b.calls.length % 2 = 1
  starting : ∀ l, b.transition = .starting l → b.active = true ∧ (b.listener? l).isSome
  stopping : b.transition = .stopping → b.active = false ∧ b.calls.getLast? = some .stop

section Calls

variable {b : Broadcaster α ε}

/-- A call for which it is the turn. -/
theorem turns_concat {call : ProducerCall} (h : b.calls = turns b.calls.length)
    (due : turn b.calls.length = call) :
    b.calls ++ [call] = turns (b.calls ++ [call]).length := by
  rw [List.length_append, List.length_singleton, turns_succ, ← h, due]

theorem start_due (h : Alternating b) (idle : b.active = false) :
    turn b.calls.length = .start := by
  have even : ¬ b.calls.length % 2 = 1 := fun odd => by
    rw [h.active.2 odd] at idle
    cases idle
  exact if_pos (by omega)

theorem stop_due (h : Alternating b) (busy : b.active = true) : turn b.calls.length = .stop := by
  have odd := h.active.1 busy
  exact if_neg (by omega)

/-- The invariant stays where nothing that it speaks of changes, but for listeners other than the
one that a start is about. -/
theorem Alternating.of_eq {c : Broadcaster α ε} (h : Alternating b) (hd : c.driven = b.driven)
    (hc : c.calls = b.calls) (ha : c.active = b.active) (ht : c.transition = b.transition)
    (hl : ∀ l, b.transition = .starting l → (c.listener? l).isSome) : Alternating c where
  driven := hd ▸ h.driven
  calls := hc ▸ h.calls
  active := by rw [hc, ha]; exact h.active
  starting l hs := ⟨ha ▸ (h.starting l (ht ▸ hs)).1, hl l (ht ▸ hs)⟩
  stopping hs := by rw [ha, hc]; exact h.stopping (ht ▸ hs)

theorem Alternating.subscribe (h : Alternating b) (idle : b.transition = .none) :
    Alternating b.subscribe := by
  have driven : b.subscribe.driven = b.driven := by
    unfold Broadcaster.subscribe
    split <;> rfl
  rcases subscribe_cases b with ⟨hc, ht, ha⟩ | ⟨running, wanted, begun, grown⟩
  · exact h.of_eq driven hc (ha h.driven) ht fun l hs => by simp [idle] at hs
  · have even : ¬ b.calls.length % 2 = 1 := fun odd => by simp [h.active.2 odd] at running
    refine ⟨driven ▸ h.driven, ?_, ?_, fun l hl => ?_, fun hs => ?_⟩
    · rw [grown]
      exact turns_concat h.calls (start_due h running)
    · rw [grown, wanted, List.length_append, List.length_singleton]
      exact ⟨fun _ => by omega, fun _ => rfl⟩
    · obtain rfl : b.nextId = l := by
        rw [begun] at hl
        exact Transition.starting.inj hl
      exact ⟨wanted, by cases hn : b.listener? b.nextId <;> simp [listener?_subscribe, hn]⟩
    · simp [begun] at hs

/-- The state after a stop, whatever is said of the call itself. -/
theorem Alternating.stop (h : Alternating b) (running : b.active = true) {transition : Transition}
    (ht : transition = .stopping ∨ transition = .none) :
    Alternating { b with
      active := false
      transition := transition
      calls := b.calls ++ [.stop] } := by
  have odd := h.active.1 running
  refine ⟨h.driven, turns_concat h.calls (stop_due h running), ?_, fun l hl => ?_, fun _ => ?_⟩
  · rw [List.length_append, List.length_singleton]
    exact ⟨fun e => (by cases e), fun e => by omega⟩
  · change transition = .starting l at hl
    rcases ht with rfl | rfl <;> cases hl
  · exact ⟨rfl, List.getLast?_concat⟩

theorem Alternating.beginStop (h : Alternating b) (epoch : Nat) :
    Alternating (b.beginStop epoch) := by
  rcases beginStop_cases b epoch with same | ⟨-, -, running, stopped⟩
  · rw [same]
    exact h
  · rw [stopped, if_pos h.driven, if_pos h.driven]
    exact h.stop running (.inl rfl)

/-- A broadcaster that is collected has no call under way. -/
theorem Alternating.collect (h : Alternating b) : Alternating b.collect := by
  rcases collect_cases b with same | ⟨abandoned, running, stopped⟩
  · rw [same]
    exact h
  · obtain ⟨-, -, -, idle⟩ := (isAbandoned_iff b).1 abandoned
    rw [stopped, if_pos h.driven]
    exact h.stop running (.inr idle)

end Calls

/-! ## Steps -/

theorem alternating_act {action : Action α ε} {b d : Broadcaster α ε} (h : Alternating b)
    (effect : Effect action b d) : Alternating d := by
  cases action with
  | subscribe =>
    obtain ⟨idle, -, rfl⟩ := effect
    exact h.subscribe idle
  | started =>
    obtain ⟨⟨l, -⟩, rfl⟩ := effect
    exact ⟨h.driven, h.calls, h.active, fun l hl => (by cases hl), fun hs => (by cases hs)⟩
  | publish a =>
    obtain ⟨-, rfl⟩ := effect
    refine h.of_eq ?_ ?_ ?_ ?_ fun l hs => ?_
    iterate 4 rw [publish_eq]
    rw [listener?_publish]
    split
    · exact (h.starting l hs).2
    · rw [Option.isSome_map]
      exact (h.starting l hs).2
  | finish ending =>
    obtain ⟨-, rfl⟩ := effect
    refine h.of_eq ?_ ?_ ?_ ?_ fun l hs => ?_
    iterate 4 rw [finish_eq]
    rw [listener?_finish]
    split
    · exact (h.starting l hs).2
    · rw [Option.isSome_map]
      exact (h.starting l hs).2
  | readNext i =>
    obtain ⟨-, rfl⟩ := effect
    refine h.of_eq rfl rfl rfl rfl fun l hs => ?_
    rw [listener?_readNext]
    split
    · rw [Option.isSome_map]
      exact (h.starting l hs).2
    · exact (h.starting l hs).2
  | leave i =>
    obtain ⟨held, rfl⟩ := effect
    refine h.of_eq ?_ ?_ ?_ ?_ fun l hs => ?_
    iterate 4 rw [leave_eq]
    have other : l ≠ i := by
      rintro rfl
      simp [holds, hs] at held
    rw [listener?_leave, if_neg other]
    exact (h.starting l hs).2
  | stop position =>
    obtain ⟨epoch, -, -, rfl⟩ := effect
    have kept : Alternating (b.withoutStop position) :=
      h.of_eq rfl rfl rfl rfl fun l hs => (h.starting l hs).2
    exact kept.beginStop epoch
  | stopped =>
    obtain ⟨-, rfl⟩ := effect
    exact ⟨h.driven, h.calls, h.active, fun l hl => (by cases hl), fun hs => (by cases hs)⟩
  | dropStop | share | release =>
    obtain ⟨-, rfl⟩ := effect
    exact h.of_eq rfl rfl rfl rfl fun l hs => (h.starting l hs).2

theorem alternating_step {action : Action α ε} {b c : Broadcaster α ε} (h : Alternating b)
    (hs : b.step action = some c) : Alternating c := by
  obtain ⟨d, hd, rfl⟩ := step_eq_some.1 hs
  exact (alternating_act h (effect_of_act hd)).collect

theorem alternating_run {value : α} {b : Broadcaster α ε}
    {past : List (Moment (Broadcaster α ε) (Action α ε))}
    (run : History step (ofValue true value) past b) : Alternating b :=
  run.invariant ⟨rfl, rfl, by simp [ofValue], fun l hl => (by cases hl), fun hs => (by cases hs)⟩
    alternating_step

/-- What an action does to the calls, and where the collection after it adds none. -/
theorem calls_act {action : Action α ε} {b d : Broadcaster α ε} (h : Alternating b)
    (effect : Effect action b d) :
    (d.calls = b.calls ∧
      (d.transition = b.transition ∨ d.isAbandoned = false ∨ d.active = false)) ∨
    (b.transition = .none ∧ d.transition ≠ .none ∧ ∃ call, d.calls = b.calls ++ [call]) := by
  cases action with
  | subscribe =>
    obtain ⟨idle, -, rfl⟩ := effect
    rcases subscribe_cases b with ⟨hc, ht, -⟩ | ⟨-, -, begun, grown⟩
    · exact .inl ⟨hc, .inl ht⟩
    · exact .inr ⟨idle, by simp [begun], _, grown⟩
  | started =>
    obtain ⟨⟨l, begun⟩, rfl⟩ := effect
    have held := (h.starting l begun).2
    refine .inl ⟨rfl, .inr (.inl ?_)⟩
    rw [Bool.eq_false_iff, Ne, isAbandoned_iff]
    rintro ⟨-, gone, -⟩
    simp only at gone
    simp [listener?, gone] at held
  | stop position =>
    obtain ⟨epoch, -, idle, rfl⟩ := effect
    rcases beginStop_cases (b.withoutStop position) epoch with same | ⟨-, -, -, stopped⟩
    · rw [same]
      exact .inl ⟨rfl, .inl rfl⟩
    · have driven : (b.withoutStop position).driven = true := h.driven
      rw [stopped, if_pos driven, if_pos driven]
      exact .inr ⟨idle, by simp, _, rfl⟩
  | stopped =>
    obtain ⟨begun, rfl⟩ := effect
    exact .inl ⟨rfl, .inr (.inr (h.stopping begun).1)⟩
  | publish a =>
    obtain ⟨-, rfl⟩ := effect
    rw [publish_eq]
    exact .inl ⟨rfl, .inl rfl⟩
  | finish ending =>
    obtain ⟨-, rfl⟩ := effect
    rw [finish_eq]
    exact .inl ⟨rfl, .inl rfl⟩
  | leave i =>
    obtain ⟨-, rfl⟩ := effect
    rw [leave_eq]
    exact .inl ⟨rfl, .inl rfl⟩
  | readNext | dropStop | share | release =>
    obtain ⟨-, rfl⟩ := effect
    exact .inl ⟨rfl, .inl rfl⟩

/-- A step makes one call at most, and none while another is under way. -/
theorem calls_step {action : Action α ε} {b c : Broadcaster α ε} (h : Alternating b)
    (hs : b.step action = some c) :
    c.calls = b.calls ∨ (b.transition = .none ∧ ∃ call, c.calls = b.calls ++ [call]) := by
  obtain ⟨d, hd, rfl⟩ := step_eq_some.1 hs
  have driven := (alternating_act h (effect_of_act hd)).driven
  rcases calls_act h (effect_of_act hd) with ⟨hc, after⟩ | ⟨idle, busy, grown⟩
  · rcases collect_cases d with same | ⟨abandoned, running, stopped⟩
    · rw [same]
      exact .inl hc
    · obtain ⟨-, -, -, idle⟩ := (isAbandoned_iff d).1 abandoned
      rw [stopped, if_pos driven, ← hc]
      rcases after with ht | held | off
      · exact .inr ⟨ht ▸ idle, _, rfl⟩
      · simp [held] at abandoned
      · simp [off] at running
  · rcases collect_cases d with same | ⟨abandoned, -, -⟩
    · rw [same]
      exact .inr ⟨idle, grown⟩
    · exact absurd ((isAbandoned_iff d).1 abandoned).2.2.2 busy

/-- A call that is under way goes on until it returns. -/
theorem transition_act {action : Action α ε} {b d : Broadcaster α ε} (effect : Effect action b d)
    (busy : b.transition ≠ .none) :
    d.transition ≠ .none ∨ action = .started ∨ action = .stopped := by
  cases action with
  | subscribe => exact absurd effect.1 busy
  | started => exact .inr (.inl rfl)
  | stopped => exact .inr (.inr rfl)
  | publish a =>
    obtain ⟨-, rfl⟩ := effect
    rw [publish_eq]
    exact .inl busy
  | finish ending =>
    obtain ⟨-, rfl⟩ := effect
    rw [finish_eq]
    exact .inl busy
  | leave i =>
    obtain ⟨-, rfl⟩ := effect
    rw [leave_eq]
    exact .inl busy
  | stop position =>
    obtain ⟨epoch, -, idle, -⟩ := effect
    exact absurd idle busy
  | readNext | dropStop | share | release =>
    obtain ⟨-, rfl⟩ := effect
    exact .inl busy

/-- After a step no call is under way only if the broadcaster is abandoned, or if there was no new
call and none was under way before or it has just returned. -/
theorem transition_step {action : Action α ε} {b c : Broadcaster α ε} (h : Alternating b)
    (hs : b.step action = some c) :
    c.transition ≠ .none ∨ c.isAbandoned = true ∨
      c.calls = b.calls ∧ (b.transition = .none ∨ action = .started ∨ action = .stopped) := by
  obtain ⟨d, hd, rfl⟩ := step_eq_some.1 hs
  have effect := effect_of_act hd
  by_cases quiet : d.transition = .none
  · right
    obtain same | ⟨abandoned, -, stopped⟩ := collect_cases d
    · obtain ⟨calls, -⟩ | ⟨-, busy, -⟩ := calls_act h effect
      · rw [same]
        by_cases idle : b.transition = .none
        · exact .inr ⟨calls, .inl idle⟩
        · exact .inr ⟨calls, .inr ((transition_act effect idle).resolve_left (absurd quiet))⟩
      · exact absurd quiet busy
    · rw [stopped]
      exact .inl abandoned
  · left
    rw [collect_eq]
    exact quiet

/-- A broadcaster that nobody can reach any more does not run its producer. -/
theorem collected_step {action : Action α ε} {b c : Broadcaster α ε} (hs : b.step action = some c)
    (abandoned : c.isAbandoned = true) : c.active = false := by
  obtain ⟨d, -, rfl⟩ := step_eq_some.1 hs
  rcases collect_cases d with same | ⟨-, -, stopped⟩
  · rw [same] at abandoned ⊢
    cases running : d.active with
    | false => rfl
    | true =>
      have due : d.collect = { d with
          active := false
          calls := if d.driven then d.calls ++ [.stop] else d.calls } := by
        simp [collect, abandoned, running]
      rw [same] at due
      rw [due] at running
      cases running
  · rw [stopped]

theorem collected_run {driven : Bool} {value : α} {b : Broadcaster α ε}
    {past : List (Moment (Broadcaster α ε) (Action α ε))}
    (run : History step (ofValue driven value) past b) (abandoned : b.isAbandoned = true) :
    b.active = false := by
  cases run with
  | start => rfl
  | next _ hs => exact collected_step hs abandoned

/-- Over every run of a broadcaster with a producer, the calls are start, stop, start, stop and so
on. A step begins one call at most, and none while another is under way; the one under way is the
last. Where no call is under way, `active` says whether the last one was a start; and once nobody
can reach the broadcaster any more, there were as many stops as starts. -/
theorem producer_calls_alternate {value : α} {b : Broadcaster α ε}
    {past : List (Moment (Broadcaster α ε) (Action α ε))}
    (run : History step (ofValue true value) past b) :
    (∀ n, b.calls[n]? =
      if n < b.calls.length then some (if n % 2 = 0 then .start else .stop) else none) ∧
    (∀ action c, b.step action = some c →
      c.calls = b.calls ∨ (b.transition = .none ∧ ∃ call, c.calls = b.calls ++ [call])) ∧
    (∀ l, b.transition = .starting l → b.calls.getLast? = some .start) ∧
    (b.transition = .stopping → b.calls.getLast? = some .stop) ∧
    (b.transition = .none → (b.active = true ↔ b.calls.getLast? = some .start)) ∧
    (b.isAbandoned = true → b.calls.count .start = b.calls.count .stop) := by
  have h := alternating_run run
  have last : b.active = true ↔ b.calls.getLast? = some .start := by
    rw [h.active, h.calls, getLast?_turns]
    simp [turns]
  refine ⟨fun n => ?_, fun action c hs => calls_step h hs, fun l hl => last.1 (h.starting l hl).1,
    fun hs => (h.stopping hs).2, fun _ => last, fun abandoned => ?_⟩
  · rw [h.calls, turns, List.getElem?_map, List.length_map, List.length_range]
    split
    · rename_i hn
      rw [List.getElem?_range hn]
      rfl
    · rename_i hn
      rw [List.getElem?_eq_none (by simpa using hn)]
      rfl
  · have even : ¬ b.calls.length % 2 = 1 := by
      rw [← h.active, collected_run run abandoned]
      nofun
    rw [h.calls, (count_turns _).1, (count_turns _).2]
    omega

/-- A departure, a subscription before the stop that it put off, the late stop, an end from inside
the second start, and a last stop when the broadcaster is dropped. -/
theorem producer_calls_alternate_to_the_end :
    ∃ b : Broadcaster Nat String,
      (ofValue true 0).run
        [.subscribe, .started, .leave 0, .subscribe, .stop 0, .leave 1, .stop 0, .stopped,
          .subscribe, .finish .completed, .started, .leave 2, .dropStop 0, .release] = some b ∧
      b.isAbandoned = true ∧ b.calls.length = 4 ∧ b.calls.count .start = b.calls.count .stop := by
  have run : (ofValue true 0 : Broadcaster Nat String).run
      [.subscribe, .started, .leave 0, .subscribe, .stop 0, .leave 1, .stop 0, .stopped,
        .subscribe, .finish .completed, .started, .leave 2, .dropStop 0, .release] =
      some ⟨0, [], 3, false, 3, some .completed, true, .none, [], 0,
        [.start, .stop, .start, .stop]⟩ := by decide
  exact ⟨_, run, rfl, rfl, (producer_calls_alternate (history_of_run run)).2.2.2.2.2 rfl⟩

end Broadcaster

end Tendermint
