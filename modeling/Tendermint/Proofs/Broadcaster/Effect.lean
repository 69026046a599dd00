import Tendermint.Proofs.History

/-!
# Tendermint.Proofs.Broadcaster.Effect

What the functions of a broadcaster do to its fields, and what a step can be.

* `listener?_publish`, `listener?_leave` and the like: what a look-up finds after a change.
* `Effect action b d`, `effect_of_act`: all that an action does, with the condition under which
  it is possible.
* `step_eq_some`: a step is an action and the collection after it.
* `nextId_act`, `listener?_act_eq_none`: how names are given out, and that they are not given twice.
* `step_publish`, `step_finish`: what updates and ends do to a broadcaster that is not abandoned.
-/

namespace Tendermint

namespace Broadcaster

variable {α ε : Type}

/-! ## What stays as it was -/

section Frame

variable (b : Broadcaster α ε)

@[simp] theorem subscribe_value : b.subscribe.value = b.value := by
  unfold subscribe
  split <;> rfl

@[simp] theorem subscribe_ending : b.subscribe.ending = b.ending := by
  unfold subscribe
  split <;> rfl

@[simp] theorem subscribe_nextId : b.subscribe.nextId = b.nextId + 1 := by
  unfold subscribe
  split <;> rfl

theorem publish_eq (a : α) :
    b.publish a = { b with
      value := (b.publish a).value
      listeners := (b.publish a).listeners } := by
  unfold publish
  split <;> rfl

theorem finish_eq (ending : Ending ε) :
    b.finish ending = { b with
      listeners := (b.finish ending).listeners
      ending := (b.finish ending).ending } := by
  unfold finish
  split <;> rfl

/-- The first end counts. -/
theorem finish_ending (ending : Ending ε) :
    (b.finish ending).ending = b.ending.or (some ending) := by
  unfold finish isEnded
  cases h : b.ending <;> simp [h]

@[simp] theorem finish_isEnded (ending : Ending ε) : (b.finish ending).isEnded = true := by
  unfold finish
  split
  · assumption
  · rfl

theorem leave_eq (id : Nat) :
    b.leave id = { b with
      listeners := b.listeners.filter (·.id != id)
      stops := (b.leave id).stops } := by
  simp only [leave]
  split <;> rfl

theorem beginStop_eq (epoch : Nat) :
    b.beginStop epoch = { b with
      active := (b.beginStop epoch).active
      transition := (b.beginStop epoch).transition
      calls := (b.beginStop epoch).calls } := by
  unfold beginStop
  split
  · split <;> rfl
  · rfl

theorem collect_eq : b.collect = { b with active := b.collect.active, calls := b.collect.calls } := by
  unfold collect
  split <;> rfl

end Frame

/-! ## Looking up a listener -/

/-- Whatever is done to the streams of others and keeps their names. -/
theorem find?_map_id (ls : List (Listener α)) (id : Nat) (f : Listener α → Listener α)
    (h : ∀ l, (f l).id = l.id) :
    (ls.map f).find? (·.id == id) = (ls.find? (·.id == id)).map f := by
  rw [List.find?_map]
  congr 2
  funext l
  simp [h]

theorem send_id (a : α) (l : Listener α) : (l.send a).id = l.id := by
  unfold Listener.send
  split <;> rfl

theorem listener?_publish (b : Broadcaster α ε) (a : α) (id : Nat) :
    (b.publish a).listener? id =
      if b.isEnded then b.listener? id else (b.listener? id).map (Listener.send a) := by
  unfold publish
  split
  · rfl
  · exact find?_map_id _ _ _ (send_id a)

theorem listener?_finish (b : Broadcaster α ε) (ending : Ending ε) (id : Nat) :
    (b.finish ending).listener? id =
      if b.isEnded then b.listener? id else (b.listener? id).map Listener.detach := by
  unfold finish
  split
  · rfl
  · exact find?_map_id _ _ _ fun _ => rfl

theorem listener?_readNext (b : Broadcaster α ε) (i id : Nat) :
    (b.readNext i).listener? id =
      if i = id then (b.listener? id).map Listener.advance else b.listener? id := by
  have hid : ∀ l : Listener α, (if l.id = i then l.advance else l).id = l.id := by
    intro l
    split <;> rfl
  simp only [readNext, modifyListener, listener?]
  rw [find?_map_id _ _ _ hid]
  cases hl : b.listeners.find? (·.id == id) with
  | none => simp
  | some l =>
    have hname : l.id = id := by simpa using List.find?_some hl
    by_cases h : i = id
    · simp [h, hname]
    · simp [h, hname, Ne.symm h]

theorem listener?_leave (b : Broadcaster α ε) (i id : Nat) :
    (b.leave i).listener? id = if id = i then none else b.listener? id := by
  rw [leave_eq]
  simp only [listener?, List.find?_filter]
  by_cases h : id = i
  · subst h
    simp
  · rw [if_neg h]
    congr 1
    funext l
    by_cases hid : l.id = id <;> simp [hid, h]

theorem listener?_subscribe (b : Broadcaster α ε) (id : Nat) :
    b.subscribe.listener? id =
      (b.listener? id).or (if id = b.nextId then some ⟨b.nextId, [b.value], !b.isEnded⟩ else none) := by
  have hl : b.subscribe.listeners = b.listeners ++ [⟨b.nextId, [b.value], !b.isEnded⟩] := by
    unfold subscribe
    split <;> rename_i h <;> simp [h]
  rw [listener?, hl, List.find?_append, listener?]
  by_cases h : id = b.nextId
  · simp [h]
  · simp [h, Ne.symm h]

/-! ## What calls the producer -/

/-- A subscription leaves the producer alone, or it starts one that does not run. -/
theorem subscribe_cases (b : Broadcaster α ε) :
    (b.subscribe.calls = b.calls ∧ b.subscribe.transition = b.transition ∧
      (b.driven = true → b.subscribe.active = b.active)) ∨
    (b.active = false ∧ b.subscribe.active = true ∧
      b.subscribe.transition = .starting b.nextId ∧ b.subscribe.calls = b.calls ++ [.start]) := by
  by_cases ended : b.isEnded = true
  · left
    simp [subscribe, ended]
  cases running : b.active with
  | true =>
    left
    simp [subscribe, ended, running]
  | false =>
    cases driven : b.driven with
    | true =>
      right
      simp [subscribe, ended, running, driven]
    | false =>
      left
      simp [subscribe, ended, running, driven]

theorem beginStop_cases (b : Broadcaster α ε) (epoch : Nat) :
    b.beginStop epoch = b ∨
      (b.epoch = epoch ∧ b.attached.isEmpty = true ∧ b.active = true ∧
        b.beginStop epoch = { b with
          active := false
          transition := if b.driven then .stopping else b.transition
          calls := if b.driven then b.calls ++ [.stop] else b.calls }) := by
  by_cases due : b.epoch = epoch ∧ b.attached.isEmpty = true ∧ b.active = true
  · refine .inr ⟨due.1, due.2.1, due.2.2, ?_⟩
    cases driven : b.driven <;> simp [beginStop, due, driven]
  · exact .inl (if_neg due)

theorem collect_cases (b : Broadcaster α ε) :
    b.collect = b ∨
      (b.isAbandoned = true ∧ b.active = true ∧
        b.collect = { b with
          active := false
          calls := if b.driven then b.calls ++ [.stop] else b.calls }) := by
  by_cases due : (b.isAbandoned && b.active) = true
  · obtain ⟨abandoned, running⟩ := Bool.and_eq_true_iff.1 due
    exact .inr ⟨abandoned, running, if_pos due⟩
  · exact .inl (if_neg due)

theorem isAbandoned_iff (b : Broadcaster α ε) :
    b.isAbandoned = true ↔
      b.handles = 0 ∧ b.listeners = [] ∧ b.stops = [] ∧ b.transition = .none := by
  simp [isAbandoned, and_assoc]

/-! ## Steps -/

theorem step_eq_some {action : Action α ε} {b c : Broadcaster α ε} :
    b.step action = some c ↔ ∃ d, b.act action = some d ∧ d.collect = c :=
  Option.map_eq_some_iff

/-- What an action does, and when it is possible. -/
def Effect : Action α ε → Broadcaster α ε → Broadcaster α ε → Prop
  | .subscribe, b, d => b.transition = .none ∧ 0 < b.handles ∧ d = b.subscribe
  | .started, b, d => (∃ l, b.transition = .starting l) ∧ d = { b with transition := .none }
  | .publish a, b, d => b.isAbandoned = false ∧ d = b.publish a
  | .finish ending, b, d => b.isAbandoned = false ∧ d = b.finish ending
  | .readNext id, b, d => b.holds id = true ∧ d = b.readNext id
  | .leave id, b, d => b.holds id = true ∧ d = b.leave id
  | .stop position, b, d =>
    ∃ epoch, b.stops[position]? = some epoch ∧ b.transition = .none ∧
      d = (b.withoutStop position).beginStop epoch
  | .stopped, b, d => b.transition = .stopping ∧ d = { b with transition := .none }
  | .dropStop position, b, d => position < b.stops.length ∧ d = b.withoutStop position
  | .share, b, d => 0 < b.handles ∧ d = { b with handles := b.handles + 1 }
  | .release, b, d => b.boundHandles < b.handles ∧ d = { b with handles := b.handles - 1 }

theorem effect_of_act {action : Action α ε} {b d : Broadcaster α ε} (h : b.act action = some d) :
    Effect action b d := by
  cases action with
  | subscribe =>
    obtain ⟨⟨idle, held⟩, h⟩ := Option.ite_none_right_eq_some.1 h
    exact ⟨idle, held, (Option.some.inj h).symm⟩
  | started =>
    simp only [act] at h
    split at h
    · rename_i l hl
      exact ⟨⟨l, hl⟩, (Option.some.inj h).symm⟩
    · cases h
  | publish | finish =>
    obtain ⟨alive, h⟩ := Option.ite_none_left_eq_some.1 h
    exact ⟨by simpa using alive, (Option.some.inj h).symm⟩
  | stop position =>
    simp only [act] at h
    split at h
    · cases h
    · rename_i epoch he
      obtain ⟨idle, h⟩ := Option.ite_none_right_eq_some.1 h
      exact ⟨epoch, he, idle, (Option.some.inj h).symm⟩
  | readNext | leave | stopped | dropStop | share | release =>
    obtain ⟨possible, h⟩ := Option.ite_none_right_eq_some.1 h
    exact ⟨possible, (Option.some.inj h).symm⟩

/-! ## Names -/

section Names

variable {action : Action α ε} {b d : Broadcaster α ε} {id : Nat}

/-- Only a subscription gives out a name, and it gives out the next one. -/
theorem nextId_act (effect : Effect action b d) :
    b.nextId ≤ d.nextId ∧ (action = .subscribe → d.nextId = b.nextId + 1) := by
  cases action with
  | subscribe =>
    obtain ⟨-, -, rfl⟩ := effect
    simp
  | publish a =>
    obtain ⟨-, rfl⟩ := effect
    rw [publish_eq]
    simp
  | finish ending =>
    obtain ⟨-, rfl⟩ := effect
    rw [finish_eq]
    simp
  | leave i =>
    obtain ⟨-, rfl⟩ := effect
    rw [leave_eq]
    simp
  | stop position =>
    obtain ⟨epoch, -, -, rfl⟩ := effect
    rw [beginStop_eq]
    simp [withoutStop]
  | readNext | started | stopped | dropStop | share | release =>
    obtain ⟨-, rfl⟩ := effect
    exact ⟨Nat.le_refl _, by rintro ⟨⟩⟩

/-- A stream that nobody holds comes only with a subscription under its name. -/
theorem listener?_act_eq_none (effect : Effect action b d) (gone : b.listener? id = none)
    (other : action = .subscribe → id ≠ b.nextId) : d.listener? id = none := by
  cases action with
  | subscribe =>
    obtain ⟨-, -, rfl⟩ := effect
    simp [listener?_subscribe, gone, other rfl]
  | publish a =>
    obtain ⟨-, rfl⟩ := effect
    simp [listener?_publish, gone]
  | finish ending =>
    obtain ⟨-, rfl⟩ := effect
    simp [listener?_finish, gone]
  | readNext i =>
    obtain ⟨-, rfl⟩ := effect
    simp [listener?_readNext, gone]
  | leave i =>
    obtain ⟨-, rfl⟩ := effect
    simp [listener?_leave, gone]
  | stop position =>
    obtain ⟨epoch, -, -, rfl⟩ := effect
    rw [beginStop_eq]
    exact gone
  | started | stopped | dropStop | share | release =>
    obtain ⟨-, rfl⟩ := effect
    exact gone

end Names

/-! ## Updates and ends -/

section Say

variable {b : Broadcaster α ε}

theorem isAbandoned_publish (b : Broadcaster α ε) (a : α) :
    (b.publish a).isAbandoned = b.isAbandoned := by
  unfold publish
  split
  · rfl
  · simp [isAbandoned]

theorem isAbandoned_finish (b : Broadcaster α ε) (ending : Ending ε) :
    (b.finish ending).isAbandoned = b.isAbandoned := by
  unfold finish
  split
  · rfl
  · simp [isAbandoned]

theorem collect_of_reached (reached : b.isAbandoned = false) : b.collect = b := by
  simp [collect, reached]

theorem step_publish (reached : b.isAbandoned = false) (a : α) :
    b.step (.publish a) = some (b.publish a) := by
  rw [step, act, if_neg (by simp [reached]), Option.map_some,
    collect_of_reached (by rw [isAbandoned_publish, reached])]

theorem step_finish (reached : b.isAbandoned = false) (ending : Ending ε) :
    b.step (.finish ending) = some (b.finish ending) := by
  rw [step, act, if_neg (by simp [reached]), Option.map_some,
    collect_of_reached (by rw [isAbandoned_finish, reached])]

end Say

end Broadcaster

end Tendermint
