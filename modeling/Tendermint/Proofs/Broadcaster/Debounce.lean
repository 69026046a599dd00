import Tendermint.Proofs.Broadcaster.Stops
import Mathlib.Data.List.Forall2

/-!
# Tendermint.Proofs.Broadcaster.Debounce

A producer is not stopped while somebody listens, nor by a stop that somebody has forestalled by
subscribing. Each stop that is put off is kept together with all that has happened since
(`sincePutOff`): its epoch falls behind that of the broadcaster by one for every listener that has
registered in the meantime, so that a stop which still finds its own epoch was not forestalled.

* `registers`, `putsOff`: the moments at which a listener registers, and at which a stop is put off.
* `dated_run`: the epoch of a stop tells how many listeners have registered since.
* `toggles_of_step`: all that can start or stop a producer.
* `stops_are_debounced`: what this means for stops, and for a churn of departures and
  subscriptions.
-/

namespace Tendermint

namespace Broadcaster

variable {α ε : Type}

/-- A subscription that comes before the end registers its listener. -/
def registers (m : Moment (Broadcaster α ε) (Action α ε)) : Bool :=
  match m.action with
  | .subscribe => !m.before.isEnded
  | _ => false

/-- A departure that leaves nobody behind puts a stop off. -/
def putsOff (m : Moment (Broadcaster α ε) (Action α ε)) : Bool :=
  match m.action with
  | .leave id => (m.before.leave id).attached.isEmpty
  | _ => false

/-- The stops that are left to come: one fewer where one is carried out or thrown away. -/
def remaining {β : Type} (action : Action α ε) (stops : List β) : List β :=
  match action with
  | .stop position => stops.eraseIdx position
  | .dropStop position => stops.eraseIdx position
  | _ => stops

/-- What one more moment makes of the account of the stops. -/
def recount (since : List (List (Moment (Broadcaster α ε) (Action α ε))))
    (m : Moment (Broadcaster α ε) (Action α ε)) :
    List (List (Moment (Broadcaster α ε) (Action α ε))) :=
  (remaining m.action since).map (· ++ [m]) ++ if putsOff m then [[]] else []

/-- For each of the stops to come, in their order, all that has happened since it was put off. -/
def sincePutOff (past : List (Moment (Broadcaster α ε) (Action α ε))) :
    List (List (Moment (Broadcaster α ε) (Action α ε))) :=
  past.foldl recount []

/-- What has happened since the stop that a moment carries out was put off. -/
def sinceCarriedOut (past : List (Moment (Broadcaster α ε) (Action α ε)))
    (m : Moment (Broadcaster α ε) (Action α ε)) :
    Option (List (Moment (Broadcaster α ε) (Action α ε))) :=
  match m.action with
  | .stop position => (sincePutOff past)[position]?
  | _ => none

section Account

variable {past first later : List (Moment (Broadcaster α ε) (Action α ε))}

theorem mem_of_mem_remaining {β : Type} {action : Action α ε} {stops : List β} {x : β}
    (h : x ∈ remaining action stops) : x ∈ stops := by
  unfold remaining at h
  split at h
  · exact List.mem_of_mem_eraseIdx h
  · exact List.mem_of_mem_eraseIdx h
  · exact h

theorem sincePutOff_concat (past : List (Moment (Broadcaster α ε) (Action α ε)))
    (m : Moment (Broadcaster α ε) (Action α ε)) :
    sincePutOff (past ++ [m]) = recount (sincePutOff past) m := by
  simp [sincePutOff]

/-- One more moment makes every account longer, but for that of a stop which it puts off. -/
theorem mem_sincePutOff_concat {m : Moment (Broadcaster α ε) (Action α ε)}
    (h : later ∈ sincePutOff (past ++ [m])) :
    (∃ earlier ∈ sincePutOff past, later = earlier ++ [m]) ∨ (later = [] ∧ putsOff m = true) := by
  rw [sincePutOff_concat, recount, List.mem_append] at h
  obtain older | own := h
  · obtain ⟨earlier, kept, rfl⟩ := List.mem_map.1 older
    exact .inl ⟨earlier, mem_of_mem_remaining kept, rfl⟩
  · right
    split at own
    · exact ⟨List.mem_singleton.1 own, by assumption⟩
    · cases own

theorem departure_of_mem_sincePutOff (h : later ∈ sincePutOff past) :
    ∃ first m, past = first ++ m :: later ∧ putsOff m = true := by
  induction past using List.reverseRecOn generalizing later with
  | nil => cases h
  | append_singleton past k ih =>
    obtain ⟨earlier, known, rfl⟩ | ⟨rfl, own⟩ := mem_sincePutOff_concat h
    · obtain ⟨first, m, rfl, left⟩ := ih known
      exact ⟨first, m, by simp, left⟩
    · exact ⟨past, k, rfl, own⟩

/-- An account that is as long as some last part of a history is older than that part. -/
theorem older_of_mem_sincePutOff (h : later ∈ sincePutOff (past ++ first))
    (long : first.length ≤ later.length) :
    ∃ older ∈ sincePutOff past, later = older ++ first := by
  induction first using List.reverseRecOn generalizing later with
  | nil =>
    rw [List.append_nil] at h
    exact ⟨later, h, (List.append_nil _).symm⟩
  | append_singleton first k ih =>
    rw [← List.append_assoc] at h
    obtain ⟨earlier, known, rfl⟩ | ⟨rfl, -⟩ := mem_sincePutOff_concat h
    · obtain ⟨older, old, rfl⟩ := ih known (by simpa using long)
      exact ⟨older, old, by simp⟩
    · simp at long

end Account

/-! ## What a step does to the epoch, the stops and the listeners -/

section Step

variable {action : Action α ε} {b c d : Broadcaster α ε}

theorem collect_epoch (b : Broadcaster α ε) : b.collect.epoch = b.epoch := by rw [collect_eq]

theorem collect_stops (b : Broadcaster α ε) : b.collect.stops = b.stops := by rw [collect_eq]

theorem collect_listeners (b : Broadcaster α ε) : b.collect.listeners = b.listeners := by
  rw [collect_eq]

theorem collect_attached (b : Broadcaster α ε) : b.collect.attached = b.attached := by
  rw [attached, collect_listeners, attached]

/-- The epoch counts the listeners that have registered. A stop is put off with the epoch of the
moment, and goes when it is carried out or thrown away. -/
theorem account_act (effect : Effect action b d) :
    d.epoch = b.epoch + (if registers ⟨b, action⟩ then 1 else 0) ∧
      d.stops = remaining action b.stops ++ if putsOff ⟨b, action⟩ then [b.epoch] else [] := by
  cases action with
  | subscribe =>
    obtain ⟨-, -, rfl⟩ := effect
    by_cases ended : b.isEnded = true <;>
      simp [Broadcaster.subscribe, registers, remaining, putsOff, ended]
  | publish a =>
    obtain ⟨-, rfl⟩ := effect
    rw [publish_eq]
    simp [registers, remaining, putsOff]
  | finish ending =>
    obtain ⟨-, rfl⟩ := effect
    rw [finish_eq]
    simp [registers, remaining, putsOff]
  | leave id =>
    obtain ⟨-, rfl⟩ := effect
    have rest : (b.leave id).attached =
        ({ b with listeners := b.listeners.filter (·.id != id) } : Broadcaster α ε).attached := by
      rw [leave_eq]
      rfl
    refine ⟨by rw [leave_eq]; rfl, ?_⟩
    simp only [putsOff, remaining, rest]
    simp only [Broadcaster.leave]
    split <;> simp
  | stop position =>
    obtain ⟨epoch, -, -, rfl⟩ := effect
    rw [beginStop_eq]
    simp [registers, remaining, putsOff, withoutStop]
  | started | readNext | stopped | dropStop | share | release =>
    obtain ⟨-, rfl⟩ := effect
    simp [registers, remaining, putsOff, withoutStop, Broadcaster.readNext, modifyListener]

theorem account_step (hs : b.step action = some c) :
    c.epoch = b.epoch + (if registers ⟨b, action⟩ then 1 else 0) ∧
      c.stops = remaining action b.stops ++ if putsOff ⟨b, action⟩ then [b.epoch] else [] := by
  obtain ⟨d, hd, rfl⟩ := step_eq_some.1 hs
  rw [collect_epoch, collect_stops]
  exact account_act (effect_of_act hd)

theorem attached_act (effect : Effect action b d) (nobody : b.attached = [])
    (unforestalled : registers ⟨b, action⟩ = false) : d.attached = [] := by
  cases action with
  | subscribe =>
    obtain ⟨-, -, rfl⟩ := effect
    have ended : b.isEnded = true := by simpa [registers] using unforestalled
    simpa [Broadcaster.subscribe, ended, attached] using nobody
  | publish a =>
    obtain ⟨-, rfl⟩ := effect
    exact (attached_publish b a).2 nobody
  | finish ending =>
    obtain ⟨-, rfl⟩ := effect
    by_cases ended : b.isEnded = true
    · have same : b.finish ending = b := if_pos ended
      rw [same]
      exact nobody
    · simp [attached, Broadcaster.finish, ended, Listener.detach]
  | readNext id =>
    obtain ⟨-, rfl⟩ := effect
    exact (attached_readNext b id).2 nobody
  | leave id =>
    obtain ⟨-, rfl⟩ := effect
    rw [leave_eq]
    rw [attached, List.filter_eq_nil_iff] at nobody ⊢
    exact fun l hl => nobody l (List.mem_of_mem_filter hl)
  | stop position =>
    obtain ⟨epoch, -, -, rfl⟩ := effect
    rw [beginStop_eq]
    exact nobody
  | started | stopped | dropStop | share | release =>
    obtain ⟨-, rfl⟩ := effect
    exact nobody

/-- A stream goes only with the listener that holds it, and the last one that goes puts a stop
off. -/
theorem listeners_act (effect : Effect action b d)
    (held : registers ⟨b, action⟩ = true ∨ b.listeners ≠ [])
    (kept : putsOff ⟨b, action⟩ = false) : d.listeners ≠ [] := by
  cases action with
  | subscribe =>
    obtain ⟨-, -, rfl⟩ := effect
    by_cases ended : b.isEnded = true <;> simp [Broadcaster.subscribe, ended]
  | publish a =>
    obtain ⟨-, rfl⟩ := effect
    have held := held.resolve_left (by simp [registers])
    by_cases ended : b.isEnded = true <;> simp [Broadcaster.publish, ended, held]
  | finish ending =>
    obtain ⟨-, rfl⟩ := effect
    have held := held.resolve_left (by simp [registers])
    by_cases ended : b.isEnded = true <;> simp [Broadcaster.finish, ended, held]
  | readNext id =>
    obtain ⟨-, rfl⟩ := effect
    have held := held.resolve_left (by simp [registers])
    simpa [Broadcaster.readNext, modifyListener] using held
  | leave id =>
    obtain ⟨-, rfl⟩ := effect
    exact listeners_of_attached _ (by simpa [putsOff] using kept)
  | stop position =>
    obtain ⟨epoch, -, -, rfl⟩ := effect
    rw [beginStop_eq]
    exact held.resolve_left (by simp [registers])
  | started | stopped | dropStop | share | release =>
    obtain ⟨-, rfl⟩ := effect
    exact held.resolve_left (by simp [registers])

/-! ## What starts and stops a producer -/

/-- What a step makes of a producer: nothing; or a subscription finds it idle; or a stop comes that
nobody has forestalled; or the broadcaster is abandoned. -/
inductive Toggles (action : Action α ε) (b c : Broadcaster α ε) : Prop where
  | leaves (active : c.active = b.active) (calls : c.calls = b.calls)
  | starts (idle : b.active = false) (active : c.active = true)
      (calls : c.calls.count .stop = b.calls.count .stop)
  | stops (position : Nat) (own : action = .stop position) (due : b.stops[position]? = some b.epoch)
      (nobody : b.attached = [])
  | collects (abandoned : c.isAbandoned = true)
      (calls : c.calls = b.calls ∨ c.calls = b.calls ++ [.stop])

theorem toggles_act (effect : Effect action b d) :
    (d.active = b.active ∧ d.calls = b.calls) ∨
      (b.active = false ∧ d.active = true ∧ d.isAbandoned = false ∧
        d.calls.count .stop = b.calls.count .stop) ∨
      ∃ position, action = .stop position ∧ b.stops[position]? = some b.epoch ∧
        b.attached = [] := by
  cases action with
  | subscribe =>
    obtain ⟨-, -, rfl⟩ := effect
    by_cases ended : b.isEnded = true
    · exact .inl (by simp [Broadcaster.subscribe, ended])
    cases running : b.active with
    | true => exact .inl (by simp [Broadcaster.subscribe, ended, running])
    | false =>
      refine .inr (.inl ⟨rfl, by simp [Broadcaster.subscribe, ended], ?_, ?_⟩)
      · simp [Broadcaster.subscribe, ended, isAbandoned]
      · cases driven : b.driven <;> simp [Broadcaster.subscribe, ended, running, driven]
  | publish a =>
    obtain ⟨-, rfl⟩ := effect
    rw [publish_eq]
    exact .inl ⟨rfl, rfl⟩
  | finish ending =>
    obtain ⟨-, rfl⟩ := effect
    rw [finish_eq]
    exact .inl ⟨rfl, rfl⟩
  | leave id =>
    obtain ⟨-, rfl⟩ := effect
    rw [leave_eq]
    exact .inl ⟨rfl, rfl⟩
  | stop position =>
    obtain ⟨epoch, found, -, rfl⟩ := effect
    obtain same | ⟨due, nobody, -, -⟩ := beginStop_cases (b.withoutStop position) epoch
    · rw [same]
      exact .inl ⟨rfl, rfl⟩
    · obtain rfl : b.epoch = epoch := due
      exact .inr (.inr ⟨position, rfl, found, List.isEmpty_iff.1 nobody⟩)
  | started | readNext | stopped | dropStop | share | release =>
    obtain ⟨-, rfl⟩ := effect
    exact .inl ⟨rfl, rfl⟩

theorem toggles_of_step (hs : b.step action = some c) : Toggles action b c := by
  obtain ⟨d, hd, rfl⟩ := step_eq_some.1 hs
  obtain ⟨active, calls⟩ | ⟨idle, active, reached, calls⟩ | ⟨position, own, due, nobody⟩ :=
    toggles_act (effect_of_act hd)
  · obtain same | ⟨abandoned, -, stopped⟩ := collect_cases d
    · rw [same]
      exact .leaves active calls
    · refine .collects ?_ ?_
      · rw [stopped]
        exact abandoned
      · rw [stopped, ← calls]
        by_cases driven : d.driven = true <;> simp [driven]
  · have same : d.collect = d := by simp [collect, reached]
    rw [same]
    exact .starts idle active calls
  · exact .stops position own due nobody

/-- Nobody can do anything to a broadcaster that nobody can reach. -/
theorem no_step_of_isAbandoned (abandoned : b.isAbandoned = true) : b.step action = none := by
  obtain ⟨handles, listeners, stops, idle⟩ := (isAbandoned_iff b).1 abandoned
  have unheld : ∀ id, b.holds id = false := fun id => by simp [holds, listener?, listeners]
  cases action <;> simp [step, act, abandoned, handles, stops, idle, unheld]

end Step

/-! ## Runs -/

/-- What holds after a history. A stop to come is as far behind the epoch as listeners have
registered since; somebody who listens has registered after every departure that left nobody
behind, and the producer runs for them; and nobody listens while it is being stopped. -/
structure Dated (past : List (Moment (Broadcaster α ε) (Action α ε))) (b : Broadcaster α ε) :
    Prop where
  epochs : List.Forall₂ (fun epoch later => b.epoch = epoch + later.countP registers)
    b.stops (sincePutOff past)
  forestalled : b.attached ≠ [] → ∀ later ∈ sincePutOff past, 0 < later.countP registers
  active : b.attached ≠ [] → b.active = true
  stopping : b.transition = .stopping → b.attached = []

section Dated

variable {action : Action α ε} {b c d : Broadcaster α ε}
  {past : List (Moment (Broadcaster α ε) (Action α ε))}

theorem forall₂_remaining {β γ : Type} {R : β → γ → Prop} {xs : List β} {ys : List γ}
    (h : List.Forall₂ R xs ys) (action : Action α ε) :
    List.Forall₂ R (remaining action xs) (remaining action ys) := by
  have erased : ∀ i, List.Forall₂ R (xs.eraseIdx i) (ys.eraseIdx i) := fun i => by
    rw [List.eraseIdx_eq_take_drop_succ, List.eraseIdx_eq_take_drop_succ]
    exact List.rel_append (List.forall₂_take i h) (List.forall₂_drop (i + 1) h)
  unfold remaining
  split
  · exact erased _
  · exact erased _
  · exact h

theorem active_of_registers (hs : b.step action = some c) (h : registers ⟨b, action⟩ = true) :
    c.active = true := by
  obtain ⟨d, hd, rfl⟩ := step_eq_some.1 hs
  cases action with
  | subscribe =>
    obtain ⟨-, -, rfl⟩ := effect_of_act hd
    have running : b.isEnded = false := by simpa [registers] using h
    have reached : b.subscribe.isAbandoned = false := by simp [subscribe, running, isAbandoned]
    have kept : b.subscribe.collect = b.subscribe := by simp [collect, reached]
    rw [kept]
    simp [subscribe, running]
  | _ => simp [registers] at h

theorem attached_of_putsOff (hs : b.step action = some c) (h : putsOff ⟨b, action⟩ = true) :
    c.attached = [] := by
  obtain ⟨d, hd, rfl⟩ := step_eq_some.1 hs
  cases action with
  | leave id =>
    obtain ⟨-, rfl⟩ := effect_of_act hd
    rw [collect_attached]
    simpa [putsOff] using h
  | _ => simp [putsOff] at h

/-- A stop begins where nobody listens, and nobody registers before it has come to its end. -/
theorem stopping_act (effect : Effect action b d) (stopping : d.transition = .stopping) :
    registers ⟨b, action⟩ = false ∧ (b.transition = .stopping ∨ b.attached = []) := by
  cases action with
  | subscribe =>
    obtain ⟨idle, -, rfl⟩ := effect
    obtain ⟨-, same, -⟩ | ⟨-, -, begun, -⟩ := subscribe_cases b
    · simp [same, idle] at stopping
    · simp [begun] at stopping
  | publish a =>
    obtain ⟨-, rfl⟩ := effect
    rw [publish_eq] at stopping
    exact ⟨rfl, .inl stopping⟩
  | finish ending =>
    obtain ⟨-, rfl⟩ := effect
    rw [finish_eq] at stopping
    exact ⟨rfl, .inl stopping⟩
  | leave id =>
    obtain ⟨-, rfl⟩ := effect
    rw [leave_eq] at stopping
    exact ⟨rfl, .inl stopping⟩
  | stop position =>
    obtain ⟨epoch, -, -, rfl⟩ := effect
    obtain same | ⟨-, nobody, -, -⟩ := beginStop_cases (b.withoutStop position) epoch
    · rw [same] at stopping
      exact ⟨rfl, .inl stopping⟩
    · exact ⟨rfl, .inr (List.isEmpty_iff.1 nobody)⟩
  | started | stopped =>
    obtain ⟨-, rfl⟩ := effect
    cases stopping
  | readNext | dropStop | share | release =>
    obtain ⟨-, rfl⟩ := effect
    exact ⟨rfl, .inl stopping⟩

theorem attached_step (hs : b.step action = some c) (nobody : b.attached = [])
    (unforestalled : registers ⟨b, action⟩ = false) : c.attached = [] := by
  obtain ⟨d, hd, rfl⟩ := step_eq_some.1 hs
  rw [collect_attached]
  exact attached_act (effect_of_act hd) nobody unforestalled

theorem dated_step (h : Dated past b) (hs : b.step action = some c) :
    Dated (past ++ [⟨b, action⟩]) c where
  epochs := by
    obtain ⟨epoch, stops⟩ := account_step hs
    rw [sincePutOff_concat, recount, stops]
    refine List.rel_append ?_ ?_
    · -- The epoch grows with every listener, and so does the count of each account.
      rw [List.forall₂_map_right_iff]
      refine (forall₂_remaining h.epochs action).imp fun e later counted => ?_
      rw [epoch, counted, List.countP_append, List.countP_singleton, Nat.add_assoc]
    · -- A departure registers nobody, so its stop has the epoch of now.
      split
      · rename_i own
        have unforestalled : registers ⟨b, action⟩ = false := by
          cases action <;> first | rfl | simp [putsOff] at own
        simpa [unforestalled] using epoch
      · exact .nil
  forestalled := by
    intro listens later known
    obtain ⟨earlier, old, rfl⟩ | ⟨-, own⟩ := mem_sincePutOff_concat known
    · rw [List.countP_append, List.countP_singleton]
      cases new : registers ⟨b, action⟩ with
      | true => simp
      | false =>
        have before := h.forestalled (fun nobody => listens (attached_step hs nobody new)) _ old
        simpa using before
    · exact absurd (attached_of_putsOff hs own) listens
  active := by
    intro listens
    cases new : registers ⟨b, action⟩ with
    | true => exact active_of_registers hs new
    | false =>
      have before : b.attached ≠ [] := fun nobody => listens (attached_step hs nobody new)
      obtain ⟨active, -⟩ | ⟨-, active, -⟩ | ⟨-, -, -, nobody⟩ | ⟨abandoned, -⟩ := toggles_of_step hs
      · exact active ▸ h.active before
      · exact active
      · exact absurd nobody before
      · exact absurd ((isAbandoned_iff c).1 abandoned).2.1 (listeners_of_attached c listens)
  stopping := by
    intro stopping
    obtain ⟨d, hd, rfl⟩ := step_eq_some.1 hs
    rw [collect_eq] at stopping
    obtain ⟨unforestalled, busy | nobody⟩ := stopping_act (effect_of_act hd) stopping
    · exact attached_step hs (h.stopping busy) unforestalled
    · exact attached_step hs nobody unforestalled

theorem Dated.later {churn : List (Moment (Broadcaster α ε) (Action α ε))} (h : Dated past b)
    (run : History step b churn c) : Dated (past ++ churn) c := by
  induction run with
  | start =>
    rw [List.append_nil]
    exact h
  | next _ hs ih =>
    rw [← List.append_assoc]
    exact dated_step ih hs

theorem dated_run {driven : Bool} {value : α}
    (run : History step (ofValue driven value) past b) : Dated past b := by
  have fresh : Dated [] (ofValue driven value : Broadcaster α ε) :=
    ⟨.nil, fun h => absurd rfl h, fun h => absurd rfl h, fun h => by cases h⟩
  exact fresh.later run

/-- A stop that still finds its own epoch was not forestalled. -/
theorem Dated.unforestalled (h : Dated past b) {position : Nat}
    {later : List (Moment (Broadcaster α ε) (Action α ε))}
    (due : b.stops[position]? = some b.epoch) (known : (sincePutOff past)[position]? = some later) :
    ∀ m ∈ later, registers m = false := by
  obtain ⟨queued, own⟩ := List.getElem?_eq_some_iff.1 due
  obtain ⟨listed, account⟩ := List.getElem?_eq_some_iff.1 known
  have counted := h.epochs.get queued listed
  rw [List.get_eq_getElem, List.get_eq_getElem, own, account] at counted
  have none : later.countP registers = 0 := by omega
  simpa using none

theorem Dated.account (h : Dated past b) {position epoch : Nat}
    (found : b.stops[position]? = some epoch) :
    ∃ later, (sincePutOff past)[position]? = some later := by
  obtain ⟨inside, -⟩ := List.getElem?_eq_some_iff.1 found
  rw [h.epochs.length_eq] at inside
  exact ⟨_, List.getElem?_eq_getElem inside⟩

end Dated

/-! ## Churn -/

section Churn

variable {b c : Broadcaster α ε} {past churn : List (Moment (Broadcaster α ε) (Action α ε))}

/-- The last listener that leaves puts a stop off. So where all streams have gone nobody has
registered since some departure that did so. -/
theorem departure_of_history (run : History step b churn c) (held : b.listeners ≠ []) :
    c.listeners ≠ [] ∨ ∃ first m last, churn = first ++ m :: last ∧ putsOff m = true ∧
      ∀ k ∈ last, registers k = false := by
  induction run with
  | start => exact .inl held
  | @next churn s t action _ hs ih =>
    obtain ⟨d, hd, rfl⟩ := step_eq_some.1 hs
    rw [collect_listeners]
    cases left : putsOff ⟨s, action⟩ with
    | true => exact .inr ⟨churn, _, [], rfl, left, by simp⟩
    | false =>
      obtain still | ⟨first, m, last, rfl, own, quiet⟩ := ih
      · exact .inl (listeners_act (effect_of_act hd) (.inr still) left)
      · cases new : registers ⟨s, action⟩ with
        | true => exact .inl (listeners_act (effect_of_act hd) (.inl new) left)
        | false =>
          refine .inr ⟨first, m, last ++ [⟨s, action⟩], by simp, own, fun k hk => ?_⟩
          obtain old | own := List.mem_append.1 hk
          · exact quiet k old
          · rw [List.mem_singleton.1 own]
            exact new

/-- In a churn, each departure that leaves nobody behind is followed by a listener that registers
before the stop which it puts off is carried out. Nothing is asked of the stops that were put off
before the churn, nor of those that are thrown away or still to come. -/
def Renewed (past churn : List (Moment (Broadcaster α ε) (Action α ε))) : Prop :=
  ∀ i < churn.length, ∀ m ∈ churn[i]?, ∀ later ∈ sinceCarriedOut (past ++ churn.take i) m,
    later.length < i → ∃ k ∈ later, registers k = true

instance (past churn : List (Moment (Broadcaster α ε) (Action α ε))) :
    Decidable (Renewed past churn) := by
  unfold Renewed
  infer_instance

theorem Renewed.before {m : Moment (Broadcaster α ε) (Action α ε)}
    (h : Renewed past (churn ++ [m])) : Renewed past churn := by
  intro i inside k hk
  have same : (churn ++ [m])[i]? = churn[i]? := List.getElem?_append_left inside
  have part : (churn ++ [m]).take i = churn.take i :=
    List.take_append_of_le_length (Nat.le_of_lt inside)
  have now := h i (by simp; omega) k (same ▸ hk)
  rwa [part] at now

theorem Renewed.last {m : Moment (Broadcaster α ε) (Action α ε)}
    {later : List (Moment (Broadcaster α ε) (Action α ε))} (h : Renewed past (churn ++ [m]))
    (known : sinceCarriedOut (past ++ churn) m = some later)
    (recent : later.length < churn.length) : ∃ k ∈ later, registers k = true :=
  h churn.length (by simp) m (by simp) later (by simpa using known) recent

/-- Every stop that is carried out in a churn comes too late. -/
theorem Dated.late {s : Broadcaster α ε} {position : Nat} (h : Dated past b)
    (listens : b.attached ≠ []) (run : History step b churn s)
    (renewed : Renewed past (churn ++ [⟨s, .stop position⟩])) :
    s.stops[position]? ≠ some s.epoch := by
  intro due
  have now := h.later run
  obtain ⟨later, known⟩ := now.account due
  have none := now.unforestalled due known
  by_cases recent : later.length < churn.length
  · obtain ⟨k, hk, new⟩ := renewed.last known recent
    simp [none k hk] at new
  · -- The stop is older than the churn, which began with somebody who listened.
    obtain ⟨older, old, rfl⟩ :=
      older_of_mem_sincePutOff (List.mem_of_getElem? known) (Nat.le_of_not_lt recent)
    obtain ⟨k, hk, new⟩ := List.countP_pos_iff.1 (h.forestalled listens older old)
    simp [none k (List.mem_append_left _ hk)] at new

/-- A churn leaves the producer alone, unless the broadcaster itself is abandoned. -/
theorem Dated.undisturbed (h : Dated past b) (listens : b.attached ≠ [])
    (run : History step b churn c) (renewed : Renewed past churn) :
    (c.active = true ∧ c.calls = b.calls) ∨
      (c.isAbandoned = true ∧ (c.calls = b.calls ∨ c.calls = b.calls ++ [.stop])) := by
  induction run with
  | start => exact .inl ⟨h.active listens, rfl⟩
  | @next churn s t action before hs ih =>
    obtain ⟨running, same⟩ | ⟨abandoned, -⟩ := ih renewed.before
    · obtain ⟨active, calls⟩ | ⟨idle, -, -⟩ | ⟨position, rfl, due, -⟩ | ⟨abandoned, calls⟩ :=
        toggles_of_step hs
      · exact .inl ⟨active ▸ running, calls.trans same⟩
      · simp [running] at idle
      · exact absurd due (h.late listens before renewed)
      · exact .inr ⟨abandoned, same ▸ calls⟩
    · rw [no_step_of_isAbandoned abandoned] at hs
      cases hs

end Churn

/-- Over every run of a broadcaster, whatever the order in which stops are carried out: a stop of
the producer is called only where no listener is registered, and none registers while it is under
way. A stop that was put off calls it only if no listener has registered since the departure that
put it off, the very end of the broadcaster aside. So a churn of departures and subscriptions that
begins with a listener, and in which somebody registers after every departure that leaves nobody
behind before its stop is carried out, calls neither a stop nor a start, however many stops are
still to come from before; unless, after the last departure, nobody registers any more and the
broadcaster itself is abandoned. -/
theorem stops_are_debounced {driven : Bool} {value : α} {b : Broadcaster α ε}
    {past : List (Moment (Broadcaster α ε) (Action α ε))}
    (run : History step (ofValue driven value) past b) :
    (b.transition = .stopping → b.listenerCount = 0) ∧
    (∀ action c, b.step action = some c → b.calls.count .stop < c.calls.count .stop →
      c.listenerCount = 0) ∧
    (∀ position c, b.step (.stop position) = some c →
      ∃ first departure later, past = first ++ departure :: later ∧ putsOff departure = true ∧
        (sincePutOff past)[position]? = some later ∧
        (b.calls.count .stop < c.calls.count .stop →
          c.isAbandoned = true ∨ ∀ m ∈ later, registers m = false)) ∧
    (∀ churn c, History step b churn c → 0 < b.listenerCount → Renewed past churn →
      c.calls = b.calls ∨
        (c.isAbandoned = true ∧ c.calls = b.calls ++ [.stop] ∧
          ∃ first departure last, churn = first ++ departure :: last ∧ putsOff departure = true ∧
            ∀ m ∈ last, registers m = false)) := by
  have h := dated_run run
  refine ⟨fun stopping => ?_, fun action c hs called => ?_, fun position c hs => ?_,
    fun churn c later listens renewed => ?_⟩
  · rw [listenerCount, h.stopping stopping, List.length_nil]
  · rw [listenerCount, List.length_eq_zero_iff]
    obtain ⟨-, calls⟩ | ⟨-, -, calls⟩ | ⟨position, rfl, -, nobody⟩ | ⟨abandoned, -⟩ :=
      toggles_of_step hs
    · simp [calls] at called
    · simp [calls] at called
    · exact attached_step hs nobody rfl
    · by_contra listens
      exact listeners_of_attached c listens ((isAbandoned_iff c).1 abandoned).2.1
  · obtain ⟨d, hd, -⟩ := step_eq_some.1 hs
    obtain ⟨epoch, found, -, -⟩ := effect_of_act hd
    obtain ⟨later, known⟩ := h.account found
    obtain ⟨first, departure, split, left⟩ :=
      departure_of_mem_sincePutOff (List.mem_of_getElem? known)
    refine ⟨first, departure, later, split, left, known, fun called => ?_⟩
    obtain ⟨-, calls⟩ | ⟨-, -, calls⟩ | ⟨_, own, due, -⟩ | ⟨abandoned, -⟩ := toggles_of_step hs
    · simp [calls] at called
    · simp [calls] at called
    · cases own
      exact .inr (h.unforestalled due known)
    · exact .inl abandoned
  · have listens : b.attached ≠ [] := List.length_pos_iff.1 listens
    obtain ⟨-, same⟩ | ⟨abandoned, same | stopped⟩ := h.undisturbed listens later renewed
    · exact .inl same
    · exact .inl same
    · refine .inr ⟨abandoned, stopped, ?_⟩
      exact (departure_of_history later (listeners_of_attached b listens)).resolve_left
        fun held => held ((isAbandoned_iff c).1 abandoned).2.1

/-- A stop from before is still to come when the second listener leaves and a third one registers;
then both stops are carried out, the younger one first. -/
theorem stops_are_debounced_in_churn :
    ∃ (past churn : List (Moment (Broadcaster Nat String) (Action Nat String)))
      (b c : Broadcaster Nat String),
      History step (ofValue true 0) past b ∧ History step b churn c ∧ Renewed past churn ∧
      churn.map Moment.action = [.leave 1, .subscribe, .stop 1, .stop 0] ∧
      b.stops.length = 1 ∧ 0 < b.listenerCount ∧ c.isAbandoned = false ∧ c.calls = b.calls := by
  have first : (ofValue true 0 : Broadcaster Nat String).run
      [.subscribe, .started, .leave 0, .subscribe] =
      some ⟨0, [⟨1, [0], true⟩], 2, true, 2, none, true, .none, [1], 1, [.start]⟩ := by decide
  have second : (⟨0, [⟨1, [0], true⟩], 2, true, 2, none, true, .none, [1], 1, [.start]⟩ :
      Broadcaster Nat String).run [.leave 1, .subscribe, .stop 1, .stop 0] =
      some ⟨0, [⟨2, [0], true⟩], 3, true, 3, none, true, .none, [], 1, [.start]⟩ := by decide
  have renewed : Renewed
      (moments step [.subscribe, .started, .leave 0, .subscribe] (ofValue true 0))
      (moments step [.leave 1, .subscribe, .stop 1, .stop 0]
        (⟨0, [⟨1, [0], true⟩], 2, true, 2, none, true, .none, [1], 1, [.start]⟩ :
          Broadcaster Nat String)) := by decide
  refine ⟨_, _, _, _, history_of_run first, history_of_run second, renewed, rfl, rfl, by decide,
    rfl, ?_⟩
  exact ((stops_are_debounced (history_of_run first)).2.2.2 _ _ (history_of_run second) (by decide)
    renewed).resolve_right fun given => by cases given.1

end Broadcaster

end Tendermint
