import Tendermint.Broadcaster.Step
import Tendermint.Socket.Step
import Mathlib.Data.List.Induction

/-!
# Tendermint.Proofs.History

Runs of a system that takes one action at a time, kept as the list of what happened: each action
with the state in which it was taken, the latest last.

* `History step start past now`: the actions of `past` lead from `start` to `now`.
* `History.append`, `History.split`: histories compose, and every part of one is one.
* `History.invariant`: what every step keeps holds at the end.
* `moments`, `History.of_run`: actions that can be taken in a row make a history.
* `Socket.reachable_iff_history`, `Broadcaster.reachable_iff_history`: the states that a history
  leads to are the reachable ones.
-/

namespace Tendermint

/-- An action and the state in which it was taken. -/
structure Moment (σ α : Type) where
  before : σ
  action : α

/-- From `start` the actions of a list of moments, each possible where it stands, lead to a
state. -/
inductive History {σ α : Type} (step : α → σ → Option σ) (start : σ) :
    List (Moment σ α) → σ → Prop where
  | start : History step start [] start
  | next {past : List (Moment σ α)} {s t : σ} {action : α} :
      History step start past s → step action s = some t →
      History step start (past ++ [⟨s, action⟩]) t

namespace History

variable {σ α : Type} {step : α → σ → Option σ} {a b c : σ} {first last : List (Moment σ α)}

theorem single {action : α} (h : step action a = some b) : History step a [⟨a, action⟩] b :=
  .next .start h

theorem append (h : History step a first b) (k : History step b last c) :
    History step a (first ++ last) c := by
  induction k with
  | start => rw [List.append_nil]; exact h
  | next _ hs ih => rw [← List.append_assoc]; exact .next ih hs

theorem of_concat {m : Moment σ α} (h : History step a (first ++ [m]) c) :
    History step a first m.before ∧ step m.action m.before = some c := by
  generalize hp : first ++ [m] = past at h
  cases h with
  | start => simp at hp
  | next h hs =>
    obtain ⟨rfl, hm⟩ := List.append_inj' hp rfl
    cases hm
    exact ⟨h, hs⟩

theorem split (h : History step a (first ++ last) c) :
    ∃ b, History step a first b ∧ History step b last c := by
  induction last using List.reverseRecOn generalizing c with
  | nil => exact ⟨c, by rwa [List.append_nil] at h, .start⟩
  | append_singleton rest m ih =>
    rw [← List.append_assoc] at h
    obtain ⟨before, hs⟩ := h.of_concat
    obtain ⟨b, hb, hr⟩ := ih before
    exact ⟨b, hb, .next hr hs⟩

/-- A history with a moment in it leads to that moment and goes on after it. -/
theorem split_at {m : Moment σ α} (h : History step a (first ++ m :: last) c) :
    ∃ b, History step a first m.before ∧ step m.action m.before = some b ∧
      History step b last c := by
  rw [List.append_cons] at h
  obtain ⟨b, h, rest⟩ := h.split
  exact ⟨b, h.of_concat.1, h.of_concat.2, rest⟩

theorem invariant {P : σ → Prop} (h : History step a first b) (start : P a)
    (kept : ∀ {s t : σ} {action : α}, P s → step action s = some t → P t) : P b := by
  induction h with
  | start => exact start
  | next _ hs ih => exact kept ih hs

end History

/-- The moments of some actions in a row, up to one that is not possible. -/
def moments {σ α : Type} (step : α → σ → Option σ) : List α → σ → List (Moment σ α)
  | [], _ => []
  | action :: rest, s =>
    match step action s with
    | none => []
    | some t => ⟨s, action⟩ :: moments step rest t

theorem action_mem_of_mem_moments {σ α : Type} {step : α → σ → Option σ} {actions : List α} {s : σ}
    {m : Moment σ α} (hm : m ∈ moments step actions s) : m.action ∈ actions := by
  induction actions generalizing s with
  | nil => cases hm
  | cons action rest ih =>
    rw [moments] at hm
    split at hm
    · cases hm
    · obtain rfl | later := List.mem_cons.1 hm
      · exact List.mem_cons_self
      · exact List.mem_cons_of_mem _ (ih later)

theorem History.of_run {σ α : Type} {step : α → σ → Option σ} {run : List α → σ → Option σ}
    (nil : ∀ s, run [] s = some s)
    (cons : ∀ action rest s, run (action :: rest) s = (step action s).bind (run rest)) :
    ∀ {actions : List α} {a b : σ}, run actions a = some b →
      History step a (moments step actions a) b := by
  intro actions
  induction actions with
  | nil =>
    intro a b h
    rw [nil] at h
    cases h
    exact .start
  | cons action rest ih =>
    intro a b h
    rw [cons] at h
    obtain ⟨t, hs, hr⟩ := Option.bind_eq_some_iff.1 h
    have later := (History.single hs).append (ih hr)
    simpa [moments, hs] using later

namespace Socket

theorem history_of_run {actions : List Action} {s t : Socket} (h : s.run actions = some t) :
    History step s (moments step actions s) t :=
  .of_run (fun _ => rfl) (fun _ _ _ => rfl) h

theorem reachable_iff_history {timeout : Duration} {ids : RequestId.Counter} {s : Socket} :
    Reachable timeout ids s ↔ ∃ past, History step (opened timeout ids) past s := by
  constructor
  · intro h
    induction h with
    | start => exact ⟨[], .start⟩
    | next _ hs ih =>
      obtain ⟨past, hp⟩ := ih
      exact ⟨_, .next hp hs⟩
  · rintro ⟨past, h⟩
    induction h with
    | start => exact .start
    | next _ hs ih => exact .next ih hs

end Socket

namespace Broadcaster

variable {α ε : Type}

theorem history_of_run {actions : List (Action α ε)} {b c : Broadcaster α ε}
    (h : b.run actions = some c) : History step b (moments step actions b) c :=
  .of_run (fun _ => rfl) (fun _ _ _ => rfl) h

theorem reachable_iff_history {driven : Bool} {value : α} {b : Broadcaster α ε} :
    Reachable driven value b ↔ ∃ past, History step (ofValue driven value) past b := by
  constructor
  · intro h
    induction h with
    | start => exact ⟨[], .start⟩
    | next _ hs ih =>
      obtain ⟨past, hp⟩ := ih
      exact ⟨_, .next hp hs⟩
  · rintro ⟨past, h⟩
    induction h with
    | start => exact .start
    | next _ hs ih => exact .next ih hs

end Broadcaster

end Tendermint
