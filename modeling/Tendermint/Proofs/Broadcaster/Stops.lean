import Tendermint.Proofs.Broadcaster.Alternation

/-!
# Tendermint.Proofs.Broadcaster.Stops

No stop of a producer is lost. A producer that is active has somebody who listens, or a stop that
is still to come and will not find itself late, or the broadcaster has ended under a stream whose
departure puts such a stop off. A stop that comes and is passed over leaves one of these behind:
either somebody listens, or it was late and a younger one is to come.

* `lost`: the stops that are dropped before they are carried out.
* `Wanted`: why a producer is active.
* `wanted_step`, `wanted_run`: it always has a reason.
* `no_stop_is_lost`: once nobody holds a stream and no stop is to come, the producer is stopped.
-/

namespace Tendermint

namespace Broadcaster

variable {α ε : Type}

/-- The stop that is thrown away at a moment, by its epoch. -/
def lost (m : Moment (Broadcaster α ε) (Action α ε)) : List Nat :=
  match m.action with
  | .dropStop position => m.before.stops[position]?.toList
  | _ => []

/-- A producer is active for a reason, unless a stop was thrown away that would have ended it. -/
def Wanted (gone : List Nat) (b : Broadcaster α ε) : Prop :=
  b.active = true →
    b.attached ≠ [] ∨ b.epoch ∈ b.stops ∨ (b.isEnded = true ∧ b.listeners ≠ []) ∨ b.epoch ∈ gone

section Attached

variable (b : Broadcaster α ε)

/-- Whatever is done to the streams and leaves them open or closed as they are. -/
theorem filter_attached_map (ls : List (Listener α)) {f : Listener α → Listener α}
    (h : ∀ l, (f l).attached = l.attached) :
    (ls.map f).filter Listener.attached = (ls.filter Listener.attached).map f := by
  rw [List.filter_map]
  congr 2
  funext l
  exact h l

theorem send_attached (a : α) (l : Listener α) : (l.send a).attached = l.attached := by
  unfold Listener.send
  split <;> rfl

theorem attached_publish (a : α) : (b.publish a).attached = [] ↔ b.attached = [] := by
  unfold publish
  split
  · rfl
  · simp only [attached]
    rw [filter_attached_map _ (send_attached a), List.map_eq_nil_iff]

theorem attached_readNext (id : Nat) : (b.readNext id).attached = [] ↔ b.attached = [] := by
  have kept : ∀ l : Listener α, (if l.id = id then l.advance else l).attached = l.attached := by
    intro l
    split <;> rfl
  simp only [readNext, modifyListener, attached]
  rw [filter_attached_map _ kept, List.map_eq_nil_iff]

/-- An attached listener has a stream. -/
theorem listeners_of_attached (h : b.attached ≠ []) : b.listeners ≠ [] := by
  intro nobody
  simp [attached, nobody] at h

end Attached

section Wanted

variable {gone : List Nat} {b c : Broadcaster α ε}

/-- A reason stays one where nothing that it speaks of is removed. -/
theorem Wanted.of_eq (h : Wanted gone b) (active : c.active = b.active) (epoch : c.epoch = b.epoch)
    (stops : c.stops = b.stops) (ended : c.ending = b.ending)
    (attached : c.attached = [] → b.attached = []) (listeners : c.listeners = [] → b.listeners = []) :
    Wanted gone c := by
  intro running
  rw [active] at running
  rw [epoch, stops]
  obtain listens | waiting | ⟨atEnd, held⟩ | away := h running
  · exact .inl fun nobody => listens (attached nobody)
  · exact .inr (.inl waiting)
  · refine .inr (.inr (.inl ⟨?_, fun nobody => held (listeners nobody)⟩))
    rw [isEnded, ended]
    exact atEnd
  · exact .inr (.inr (.inr away))

theorem Wanted.later (h : Wanted gone b) (more : List Nat) : Wanted (gone ++ more) b := fun running =>
  (h running).imp_right (.imp_right (.imp_right (List.mem_append_left more)))

theorem wanted_subscribe (b : Broadcaster α ε) (gone : List Nat) : Wanted gone b.subscribe := by
  intro _
  by_cases ended : b.isEnded = true
  · refine .inr (.inr (.inl ⟨by simpa [isEnded] using ended, ?_⟩))
    simp [subscribe, ended]
  · left
    simp [subscribe, ended, attached]

/-- The end takes the listeners away but leaves their streams. -/
theorem Wanted.finish (h : Wanted gone b) (ending : Ending ε) : Wanted gone (b.finish ending) := by
  by_cases atEnd : b.isEnded = true
  · have same : b.finish ending = b := if_pos atEnd
    rw [same]
    exact h
  · intro running
    have streams : (b.finish ending).listeners = [] → b.listeners = [] := by
      simp [Broadcaster.finish, atEnd]
    have epoch : (b.finish ending).epoch = b.epoch := by rw [finish_eq]
    have stops : (b.finish ending).stops = b.stops := by rw [finish_eq]
    have active : (b.finish ending).active = b.active := by rw [finish_eq]
    rw [epoch, stops]
    obtain listens | waiting | ⟨-, held⟩ | away := h (active ▸ running)
    · have held := listeners_of_attached b listens
      exact .inr (.inr (.inl ⟨finish_isEnded b ending, fun nobody => held (streams nobody)⟩))
    · exact .inr (.inl waiting)
    · exact .inr (.inr (.inl ⟨finish_isEnded b ending, fun nobody => held (streams nobody)⟩))
    · exact .inr (.inr (.inr away))

/-- The last listener that leaves puts a stop off that is not late. -/
theorem wanted_leave (b : Broadcaster α ε) (id : Nat) (gone : List Nat) :
    Wanted gone (b.leave id) := by
  intro _
  simp only [leave]
  split
  · exact .inr (.inl (List.mem_append_right _ (List.mem_singleton_self _)))
  · rename_i others
    exact .inl (by simpa using others)

/-- A stop that comes ends the producer, or it is not the one that the producer waits for. -/
theorem Wanted.stop (h : Wanted gone b) {position epoch : Nat}
    (found : b.stops[position]? = some epoch) :
    Wanted gone ((b.withoutStop position).beginStop epoch) := by
  obtain same | ⟨-, -, -, stopped⟩ := beginStop_cases (b.withoutStop position) epoch
  · intro running
    rw [same] at running ⊢
    obtain listens | waiting | atEnd | away := h running
    · exact .inl listens
    · by_cases late : b.epoch = epoch
      · -- A stop that is not late is passed over only where somebody listens.
        left
        intro nobody
        have due : (b.withoutStop position).epoch = epoch ∧
            (b.withoutStop position).attached.isEmpty = true ∧
            (b.withoutStop position).active = true := ⟨late, List.isEmpty_iff.2 nobody, running⟩
        rw [beginStop, if_pos due] at same
        have still := congrArg Broadcaster.active same
        split at still <;> exact absurd (still.trans running) (by simp)
      · right
        left
        obtain ⟨i, hi⟩ := List.getElem?_of_mem waiting
        refine List.mem_eraseIdx_iff_getElem?.2 ⟨i, ?_, hi⟩
        rintro rfl
        rw [found] at hi
        exact late (Option.some.inj hi).symm
    · exact .inr (.inr (.inl atEnd))
    · exact .inr (.inr (.inr away))
  · rw [stopped]
    intro running
    cases running

/-- A stop that is dropped is counted among the lost ones. -/
theorem Wanted.dropStop (h : Wanted gone b) (position : Nat) :
    Wanted (gone ++ lost ⟨b, .dropStop position⟩) (b.withoutStop position) := by
  intro running
  obtain listens | waiting | atEnd | away := h running
  · exact .inl listens
  · obtain ⟨i, hi⟩ := List.getElem?_of_mem waiting
    by_cases own : i = position
    · subst own
      refine .inr (.inr (.inr (List.mem_append_right _ ?_)))
      simp [lost, hi, withoutStop]
    · exact .inr (.inl (List.mem_eraseIdx_iff_getElem?.2 ⟨i, own, hi⟩))
  · exact .inr (.inr (.inl atEnd))
  · exact .inr (.inr (.inr (List.mem_append_left _ away)))

theorem wanted_act {action : Action α ε} (h : Wanted gone b) (effect : Effect action b c) :
    Wanted (gone ++ lost ⟨b, action⟩) c := by
  cases action with
  | subscribe =>
    obtain ⟨-, -, rfl⟩ := effect
    exact wanted_subscribe b _
  | publish a =>
    obtain ⟨-, rfl⟩ := effect
    refine (h.of_eq ?_ ?_ ?_ ?_ (attached_publish b a).1 ?_).later _
    iterate 4 rw [publish_eq]
    unfold publish
    split <;> simp
  | finish ending =>
    obtain ⟨-, rfl⟩ := effect
    exact (h.finish ending).later _
  | readNext id =>
    obtain ⟨-, rfl⟩ := effect
    have streams : (b.readNext id).listeners = [] → b.listeners = [] := by
      simp [readNext, modifyListener]
    have kept : Wanted gone (b.readNext id) :=
      h.of_eq rfl rfl rfl rfl (attached_readNext b id).1 streams
    exact kept.later _
  | leave id =>
    obtain ⟨-, rfl⟩ := effect
    exact wanted_leave b id _
  | stop position =>
    obtain ⟨epoch, found, -, rfl⟩ := effect
    exact (h.stop found).later _
  | dropStop position =>
    obtain ⟨-, rfl⟩ := effect
    exact h.dropStop position
  | started | stopped | share | release =>
    obtain ⟨-, rfl⟩ := effect
    exact (h.of_eq rfl rfl rfl rfl id id).later _

theorem wanted_step {action : Action α ε} (h : Wanted gone b) (hs : b.step action = some c) :
    Wanted (gone ++ lost ⟨b, action⟩) c := by
  obtain ⟨d, hd, rfl⟩ := step_eq_some.1 hs
  have wanted := wanted_act h (effect_of_act hd)
  obtain same | ⟨-, -, stopped⟩ := collect_cases d
  · rw [same]
    exact wanted
  · rw [stopped]
    intro running
    cases running

end Wanted

theorem wanted_run {driven : Bool} {value : α} {b : Broadcaster α ε}
    {past : List (Moment (Broadcaster α ε) (Action α ε))}
    (run : History step (ofValue driven value) past b) : Wanted (past.flatMap lost) b := by
  induction run with
  | start => exact fun running => by cases running
  | next _ hs ih =>
    rw [List.flatMap_append, List.flatMap_singleton]
    exact wanted_step ih hs

/-- Over every run of a broadcaster with a producer, the producer is active only while somebody
listens, or a stop is to come that was put off when the last listener left and nobody has
subscribed since, or the broadcaster has ended and somebody holds a stream; a stream counts from
its subscription on, also while the start on its behalf is under way. So once nobody holds a stream
and no stop is to come, the producer is not active, and it was stopped as often as it was started.
The one thing that can keep a producer running is that the stop that was due is thrown away
before it comes. -/
theorem no_stop_is_lost {value : α} {b : Broadcaster α ε}
    {past : List (Moment (Broadcaster α ε) (Action α ε))}
    (run : History step (ofValue true value) past b) :
    (b.active = true →
      0 < b.listenerCount ∨ b.epoch ∈ b.stops ∨ (b.isEnded = true ∧ b.listeners ≠ []) ∨
        b.epoch ∈ past.flatMap lost) ∧
    (b.listeners = [] → b.stops = [] → b.epoch ∉ past.flatMap lost →
      b.active = false ∧ b.calls.count .start = b.calls.count .stop) := by
  have wanted := wanted_run run
  constructor
  · intro running
    exact (wanted running).imp_left List.length_pos_iff.2
  · intro nobody noStop whole
    have idle : b.active = false := by
      by_contra running
      obtain listens | waiting | ⟨-, held⟩ | away := wanted (by simpa using running)
      · exact listeners_of_attached b listens nobody
      · rw [noStop] at waiting
        cases waiting
      · exact held nobody
      · exact whole away
    have h := alternating_run run
    have even : ¬ b.calls.length % 2 = 1 := fun odd => by simp [h.active.2 odd] at idle
    refine ⟨idle, ?_⟩
    rw [h.calls, (count_turns _).1, (count_turns _).2]
    omega

/-- A departure whose stop comes late, an end under the second listener, its departure, and the
stop that this puts off. -/
theorem no_stop_is_lost_after_end :
    ∃ b : Broadcaster Nat String,
      (ofValue true 0).run
        [.subscribe, .started, .leave 0, .subscribe, .stop 0, .finish (.failed "lost"), .leave 1,
          .stop 0, .stopped] = some b ∧
      b.handles = 1 ∧ b.active = false ∧ b.calls.count .start = b.calls.count .stop := by
  have run : (ofValue true 0 : Broadcaster Nat String).run
      [.subscribe, .started, .leave 0, .subscribe, .stop 0, .finish (.failed "lost"), .leave 1,
        .stop 0, .stopped] =
      some ⟨0, [], 2, false, 2, some (.failed "lost"), true, .none, [], 1, [.start, .stop]⟩ := by
    decide
  exact ⟨_, run, rfl, (no_stop_is_lost (history_of_run run)).2 rfl rfl (by decide)⟩

end Broadcaster

end Tendermint
