import Tendermint.Broadcaster.Wait
import Tendermint.Proofs.Broadcaster.Ending

/-!
# Tendermint.Proofs.Broadcaster.Waiting

A wait finds the first value that its test accepts. Whatever else happens to the broadcaster, the
values that are put to the test are a first part of what is sent to its stream, and the wait
resolves only with the first accepted value or with the end of the stream.

* `Wait.Rejects`, `Wait.FirstMatch`: what a test with a memory makes of values in a row.
* `Wait.Turn`, `Wait.turn_iff`: what a wait finds when its turn comes.
* `Attends`: how far a wait has come and what was put to its test; `attends_step`, `attends_run`.
* `Vigil.comes_to_rest`: by its own turns alone a wait comes to where it has nothing left to do.
* `Attends.at_rest`: there it has read all of an open stream, or it has resolved.
* `first_match_is_found`.
-/

namespace Tendermint

variable {α ε σ : Type}

namespace Wait

/-! ## Tests -/

variable (test : σ → α → Bool × σ)

/-- The memory of a test after some values. -/
def memoryAfter (memory : σ) (values : List α) : σ :=
  values.foldl (fun memory a => (test memory a).2) memory

/-- A test accepts none of some values. -/
def Rejects : σ → List α → Prop
  | _, [] => True
  | memory, a :: rest => (test memory a).1 = false ∧ Rejects (test memory a).2 rest

/-- The first of some values that a test accepts. -/
def FirstMatch (memory : σ) (values : List α) (a : α) : Prop :=
  ∃ before after, values = before ++ a :: after ∧ Rejects test memory before ∧
    (test (memoryAfter test memory before) a).1 = true

section Test

variable {test} {memory : σ} {values more : List α} {a b : α}

theorem memoryAfter_concat :
    memoryAfter test memory (values ++ [a]) = (test (memoryAfter test memory values) a).2 := by
  simp [memoryAfter]

theorem rejects_append :
    Rejects test memory (values ++ more) ↔
      Rejects test memory values ∧ Rejects test (memoryAfter test memory values) more := by
  induction values generalizing memory with
  | nil => simp [Rejects, memoryAfter]
  | cons a rest ih =>
    rw [List.cons_append, Rejects, ih, Rejects, and_assoc]
    rfl

theorem rejects_concat :
    Rejects test memory (values ++ [a]) ↔
      Rejects test memory values ∧ (test (memoryAfter test memory values) a).1 = false := by
  simp [rejects_append, Rejects]

/-- A test accepts the last of some values and none before it. -/
def AcceptsLast (test : σ → α → Bool × σ) (memory : σ) (values : List α) (a : α) : Prop :=
  ∃ before, values = before ++ [a] ∧ Rejects test memory before ∧
    (test (memoryAfter test memory before) a).1 = true

theorem AcceptsLast.firstMatch {sent : List α} (h : AcceptsLast test memory values a)
    (within : values <+: sent) : FirstMatch test memory sent a := by
  obtain ⟨before, rfl, rejects, accepts⟩ := h
  obtain ⟨after, rfl⟩ := within
  exact ⟨before, after, by simp, rejects, accepts⟩

theorem AcceptsLast.rejects_dropLast (h : AcceptsLast test memory values a) :
    Rejects test memory values.dropLast := by
  obtain ⟨before, rfl, rejects, -⟩ := h
  rwa [List.dropLast_concat]

theorem Rejects.dropLast (h : Rejects test memory values) :
    Rejects test memory values.dropLast := by
  obtain rfl | ⟨before, a, rfl⟩ := List.eq_nil_or_concat values
  · exact h
  · rw [List.concat_eq_append] at h ⊢
    rw [List.dropLast_concat]
    exact (rejects_concat.1 h).1

theorem FirstMatch.not_rejects (h : FirstMatch test memory values a) :
    ¬ Rejects test memory values := by
  obtain ⟨before, after, rfl, -, accepts⟩ := h
  intro rejects
  have refused := (rejects_append.1 rejects).2.1
  rw [accepts] at refused
  cases refused

theorem FirstMatch.unique (h : FirstMatch test memory values a)
    (k : FirstMatch test memory values b) : a = b := by
  obtain ⟨before, after, parts, rejects, accepts⟩ := h
  obtain ⟨before', after', parts', rejects', accepts'⟩ := k
  have inside {before before' after : List α} {a : α} (rejects : Rejects test memory before')
      (accepts : (test (memoryAfter test memory before) a).1 = true) :
      before' ≠ before ++ a :: after := by
    rintro rfl
    exact FirstMatch.not_rejects ⟨before, after, rfl, (rejects_append.1 rejects).1, accepts⟩ rejects
  rw [parts] at parts'
  -- Either match stands where the other does or would be among the values rejected before it.
  obtain ⟨_ | ⟨c, between⟩, same, rest⟩ | ⟨_ | ⟨c, between⟩, same, rest⟩ :=
    List.append_eq_append_iff.1 parts'
  · exact (List.cons.inj rest).1
  · cases (List.cons.inj rest).1
    exact absurd same (inside rejects' accepts)
  · exact (List.cons.inj rest).1.symm
  · cases (List.cons.inj rest).1
    exact absurd same (inside rejects accepts')

end Test

end Wait

/-! ## What a turn is -/

section Turn

variable {test : σ → α → Bool × σ} {b : Broadcaster α ε} {id : Nat} {memory : σ} {a : α}

/-- What a wait finds when its turn comes. -/
inductive Wait.Turn (test : σ → α → Bool × σ) (b : Broadcaster α ε) :
    Wait α σ → Broadcaster.Action α ε → Wait α σ → Prop where
  | reads {id : Nat} {memory : σ} {l : Listener α} {a : α} {rest : List α}
      (found : b.listener? id = some l) (unread : l.unread = a :: rest) :
      Wait.Turn test b (.following id memory) (.readNext id) (Wait.examine test id memory a)
  | ends {id : Nat} {memory : σ} {l : Listener α} (found : b.listener? id = some l)
      (unread : l.unread = []) (closed : l.attached = false) :
      Wait.Turn test b (.following id memory) (.leave id) (.settled none)
  | leaves (id : Nat) (a : α) : Wait.Turn test b (.leaving id a) (.leave id) (.settled (some a))

theorem Wait.turn_iff {wait after : Wait α σ} {action : Broadcaster.Action α ε} :
    wait.next test b = some (action, after) ↔ Wait.Turn test b wait action after := by
  constructor
  · intro h
    cases wait with
    | following id memory =>
      rw [Wait.next] at h
      cases found : b.listener? id with
      | none =>
        rw [found] at h
        cases h
      | some l =>
        rw [found, Option.map_some, Listener.poll] at h
        cases unread : l.unread with
        | cons a rest =>
          rw [unread] at h
          cases h
          exact .reads found unread
        | nil =>
          cases closed : l.attached with
          | true => simp [unread, closed] at h
          | false =>
            simp only [unread, closed] at h
            cases h
            exact .ends found unread closed
    | leaving id a =>
      cases h
      exact .leaves id a
    | settled found => cases h
  · rintro (⟨found, unread⟩ | ⟨found, unread, closed⟩ | _)
    · simp only [Wait.next, found, Option.map_some, Listener.poll, unread]
    · simp [Wait.next, found, Listener.poll, unread, closed]
    · rfl

end Turn

namespace Vigil

variable {test : σ → α → Bool × σ} {v w : Vigil α ε σ}

theorem step_own_eq_some :
    v.step test .own = some w ↔
      ∃ action, Wait.Turn test v.state v.wait action w.wait ∧
        v.state.step action = some w.state := by
  simp only [step, ← Wait.turn_iff]
  cases v.wait.next test v.state with
  | none => simp
  | some found =>
    obtain ⟨action, wait⟩ := found
    obtain ⟨state, wait'⟩ := w
    simp only [Option.map_eq_some_iff, mk.injEq, Option.some.injEq, Prod.mk.injEq]
    grind

theorem step_other_eq_some {action : Broadcaster.Action α ε} :
    v.step test (.other action) = some w ↔
      v.wait.owns action = false ∧ v.state.step action = some w.state ∧ w.wait = v.wait := by
  obtain ⟨state, wait⟩ := w
  simp only [step, Option.ite_none_left_eq_some, Option.map_eq_some_iff, mk.injEq]
  grind

/-- The value that is put to the test at a moment. -/
def examined (m : Moment (Vigil α ε σ) (Move α ε)) : List α :=
  match m.action, m.before.wait with
  | .own, .following id _ => ((m.before.state.listener? id).map (·.unread.take 1)).getD []
  | _, _ => []

/-- The update that the broadcaster takes at a moment. -/
def accepted (m : Moment (Vigil α ε σ) (Move α ε)) : List α :=
  match m.action with
  | .own => []
  | .other action => Broadcaster.accepted ⟨m.before.state, action⟩

end Vigil

/-! ## What a step leaves -/

namespace Broadcaster

variable {id : Nat} {b c : Broadcaster α ε} {action : Action α ε}

theorem Follows.within {read sent : List α} (h : Follows id read sent b) : read <+: sent := by
  obtain ⟨l, -, -, whole⟩ := h
  exact ⟨l.unread, whole⟩

theorem given_step (given : id < b.nextId) (hs : b.step action = some c) : id < c.nextId := by
  obtain ⟨d, hd, rfl⟩ := step_eq_some.1 hs
  rw [collect_eq]
  exact Nat.lt_of_lt_of_le given (nextId_act (effect_of_act hd)).1

/-- A stream that was dropped does not come back, as its name was given out. -/
theorem gone_step (given : id < b.nextId) (gone : b.listener? id = none)
    (hs : b.step action = some c) : c.listener? id = none := by
  obtain ⟨d, hd, rfl⟩ := step_eq_some.1 hs
  have still := listener?_act_eq_none (effect_of_act hd) gone fun _ => by omega
  rw [collect_eq]
  exact still

theorem isEnded_step (ended : b.isEnded = true) (hs : b.step action = some c) :
    c.isEnded = true := by
  rw [isEnded, (ending_step ended hs).1]
  exact ended

theorem able_of_holds (held : b.holds id = true) :
    (b.step (.readNext id)).isSome = true ∧ (b.step (.leave id)).isSome = true := by
  simp [step, act, held]

theorem leave_step (hs : b.step (.leave id) = some c) :
    c.listener? id = none ∧ c.isEnded = b.isEnded := by
  obtain ⟨d, hd, rfl⟩ := step_eq_some.1 hs
  obtain ⟨-, rfl⟩ := effect_of_act hd
  have gone : (b.leave id).listener? id = none := by simp [listener?_leave]
  rw [collect_eq]
  refine ⟨gone, ?_⟩
  rw [leave_eq]
  rfl

end Broadcaster

/-! ## How far a wait has come -/

open Broadcaster (Follows follows_step ending_step given_step gone_step isEnded_step leave_step)
open Wait (Rejects AcceptsLast FirstMatch memoryAfter)

/-- How far a wait has come whose stream is `id`: what was put to its test is the first part of what
was sent, the test has accepted nothing before the last of it, and the wait ends with that or, if
nothing was accepted, with the end of the broadcaster. -/
inductive Attends (test : σ → α → Bool × σ) (memory : σ) (id : Nat) (b : Broadcaster α ε)
    (examined sent : List α) : Wait α σ → Prop where
  | following (follows : Follows id examined sent b) (rejects : Rejects test memory examined) :
      Attends test memory id b examined sent (.following id (memoryAfter test memory examined))
  | leaving {a : α} (follows : Follows id examined sent b)
      (accepts : AcceptsLast test memory examined a) :
      Attends test memory id b examined sent (.leaving id a)
  | found {a : α} (gone : b.listener? id = none) (within : examined <+: sent)
      (accepts : AcceptsLast test memory examined a) :
      Attends test memory id b examined sent (.settled (some a))
  | gaveUp (gone : b.listener? id = none) (ended : b.isEnded = true) (whole : examined = sent)
      (rejects : Rejects test memory examined) :
      Attends test memory id b examined sent (.settled none)

section Attends

variable {test : σ → α → Bool × σ} {memory : σ} {id : Nat} {b c : Broadcaster α ε}
  {examined sent : List α} {wait after : Wait α σ}

/-- What others do leaves a wait as it was, but for what is sent. -/
theorem Attends.other {action : Broadcaster.Action α ε}
    (h : Attends test memory id b examined sent wait) (given : id < b.nextId)
    (apart : wait.owns action = false) (hs : b.step action = some c) :
    Attends test memory id c examined (sent ++ Broadcaster.accepted ⟨b, action⟩) wait := by
  -- Nobody else reads the stream of the wait or gives it up.
  have still (held : wait.listener? = some id) (follows : Follows id examined sent b) :
      Follows id examined (sent ++ Broadcaster.accepted ⟨b, action⟩) c := by
    have stays : action ≠ .leave id := by
      rintro rfl
      simp [Wait.owns, held] at apart
    have unread : Broadcaster.readBy id ⟨b, action⟩ = [] := by
      cases action with
      | readNext i =>
        have other : i ≠ id := by
          rintro rfl
          simp [Wait.owns, held] at apart
        simp [Broadcaster.readBy, other]
      | _ => rfl
    simpa [unread] using follows_step follows hs stays
  cases h with
  | following follows rejects => exact .following (still rfl follows) rejects
  | leaving follows accepts => exact .leaving (still rfl follows) accepts
  | found gone within accepts =>
    exact .found (gone_step given gone hs) (within.trans (List.prefix_append _ _)) accepts
  | gaveUp gone ended whole rejects =>
    refine .gaveUp (gone_step given gone hs) (isEnded_step ended hs) ?_ rejects
    rw [(ending_step ended hs).2, List.append_nil]
    exact whole

/-- What a wait does in its turn: it puts the next value to its test, or it resolves. -/
theorem Attends.own {action : Broadcaster.Action α ε} {tested : List α}
    (h : Attends test memory id b examined sent wait) (turn : Wait.Turn test b wait action after)
    (hs : b.step action = some c)
    (value : tested = Vigil.examined ⟨⟨b, wait⟩, .own⟩) :
    Attends test memory id c (examined ++ tested) sent after := by
  cases h with
  | following follows rejects =>
    cases turn with
    | @reads _ _ l a rest found unread =>
      obtain rfl : tested = [a] := by simp [value, Vigil.examined, found, unread]
      have next : Follows id (examined ++ [a]) sent c := by
        have stays : Broadcaster.Action.readNext id ≠ (.leave id : Broadcaster.Action α ε) := nofun
        simpa [Broadcaster.readBy, Broadcaster.accepted, found, unread] using
          follows_step follows hs stays
      rw [Wait.examine]
      split
      · next accepts =>
        exact .leaving next ⟨examined, rfl, rejects, congrArg Prod.fst accepts⟩
      · next later refuses =>
        have remembers : memoryAfter test memory (examined ++ [a]) = later := by
          rw [Wait.memoryAfter_concat, refuses]
        rw [← remembers]
        exact .following next (Wait.rejects_concat.2 ⟨rejects, congrArg Prod.fst refuses⟩)
    | @ends _ _ l found unread closed =>
      obtain rfl : tested = [] := by simp [value, Vigil.examined, found, unread]
      obtain ⟨gone, same⟩ := leave_step hs
      obtain ⟨l', found', isOpen, whole⟩ := follows
      obtain rfl : l = l' := Option.some.inj (found.symm.trans found')
      rw [List.append_nil]
      refine .gaveUp gone ?_ ?_ rejects
      · simpa [same, closed] using isOpen
      · rwa [unread, List.append_nil] at whole
  | leaving follows accepts =>
    cases turn
    obtain rfl : tested = [] := value
    rw [List.append_nil]
    exact .found (leave_step hs).1 follows.within accepts
  | found | gaveUp => cases turn

end Attends

/-! ## Steps and runs -/

section Runs

variable {test : σ → α → Bool × σ} {memory : σ} {id : Nat} {v w : Vigil α ε σ}
  {examined sent : List α}

theorem attends_step {move : Vigil.Move α ε}
    (h : Attends test memory id v.state examined sent v.wait) (given : id < v.state.nextId)
    (hs : v.step test move = some w) :
    Attends test memory id w.state (examined ++ Vigil.examined ⟨v, move⟩)
      (sent ++ Vigil.accepted ⟨v, move⟩) w.wait ∧ id < w.state.nextId := by
  cases move with
  | own =>
    obtain ⟨action, turn, stepped⟩ := Vigil.step_own_eq_some.1 hs
    exact ⟨by simpa [Vigil.accepted] using h.own turn stepped rfl, given_step given stepped⟩
  | other action =>
    obtain ⟨apart, stepped, same⟩ := Vigil.step_other_eq_some.1 hs
    rw [same]
    exact ⟨by simpa [Vigil.examined, Vigil.accepted] using h.other given apart stepped,
      given_step given stepped⟩

theorem attends_run {past : List (Moment (Vigil α ε σ) (Vigil.Move α ε))}
    (h : Attends test memory id v.state examined sent v.wait) (given : id < v.state.nextId)
    (run : History (Vigil.step test) v past w) :
    Attends test memory id w.state (examined ++ past.flatMap Vigil.examined)
      (sent ++ past.flatMap Vigil.accepted) w.wait ∧ id < w.state.nextId := by
  induction run with
  | start => simpa using ⟨h, given⟩
  | next _ hs ih => simpa using attends_step ih.1 ih.2 hs

theorem attends_subscribe (test : σ → α → Bool × σ) (memory : σ) {driven : Bool} {value : α}
    {s t : Broadcaster α ε} (reached : Broadcaster.Reachable driven value s)
    (subscribed : s.step .subscribe = some t) :
    Attends test memory s.nextId t [] [s.value] (.following s.nextId memory) ∧
      s.nextId < t.nextId := by
  obtain ⟨before, run⟩ := Broadcaster.reachable_iff_history.1 reached
  have fresh := Broadcaster.numbered_run run s.nextId (Nat.le_refl _)
  refine ⟨.following (Broadcaster.follows_of_subscribe fresh subscribed) trivial, ?_⟩
  obtain ⟨d, hd, rfl⟩ := Broadcaster.step_eq_some.1 subscribed
  have next := (Broadcaster.nextId_act (Broadcaster.effect_of_act hd)).2 rfl
  rw [Broadcaster.collect_eq]
  change s.nextId < d.nextId
  omega

/-! ## Coming to rest -/

/-- How many turns a wait can still have if nobody else does anything. -/
def Vigil.turnsLeft (v : Vigil α ε σ) : Nat :=
  match v.wait with
  | .following id _ => ((v.state.listener? id).map (·.unread.length)).getD 0 + 2
  | .leaving _ _ => 1
  | .settled _ => 0

theorem Vigil.turnsLeft_own (hs : v.step test .own = some w) : w.turnsLeft < v.turnsLeft := by
  obtain ⟨state, wait⟩ := v
  obtain ⟨state', wait'⟩ := w
  obtain ⟨action, turn, stepped⟩ := Vigil.step_own_eq_some.1 hs
  cases turn with
  | @reads id memory l a rest found unread =>
    obtain ⟨d, hd, rfl⟩ := Broadcaster.step_eq_some.1 stepped
    obtain ⟨-, rfl⟩ := Broadcaster.effect_of_act hd
    have next : (state.readNext id).collect.listener? id = some l.advance := by
      rw [Broadcaster.collect_eq]
      change (state.readNext id).listener? id = _
      rw [Broadcaster.listener?_readNext, if_pos rfl, found, Option.map_some]
    obtain ⟨_ | _, later⟩ := test memory a <;>
      simp [Vigil.turnsLeft, found, unread, next, Listener.advance]
  | ends => simp [Vigil.turnsLeft]
  | leaves => simp [Vigil.turnsLeft]

/-- A turn of a wait neither ends the broadcaster nor keeps a stream back. -/
theorem Vigil.frame_own (hs : v.step test .own = some w) :
    w.state.isEnded = v.state.isEnded ∧ w.state.transition = v.state.transition := by
  obtain ⟨state, wait⟩ := v
  obtain ⟨state', wait'⟩ := w
  obtain ⟨action, turn, stepped⟩ := Vigil.step_own_eq_some.1 hs
  obtain ⟨d, hd, same⟩ := Broadcaster.step_eq_some.1 stepped
  have effect := Broadcaster.effect_of_act hd
  subst same
  rw [Broadcaster.collect_eq]
  cases turn with
  | reads =>
    obtain ⟨-, rfl⟩ := effect
    exact ⟨rfl, rfl⟩
  | ends | leaves =>
    obtain ⟨-, rfl⟩ := effect
    rw [Broadcaster.leave_eq]
    exact ⟨rfl, rfl⟩

/-- By its own turns alone a wait comes to where it has nothing left to do. -/
theorem Vigil.comes_to_rest (test : σ → α → Bool × σ) (v : Vigil α ε σ) :
    ∃ rest w, History (Vigil.step test) v rest w ∧ (∀ m ∈ rest, m.action = .own) ∧
      w.step test .own = none := by
  cases possible : v.step test .own with
  | none => exact ⟨[], v, .start, by simp, possible⟩
  | some u =>
    -- A turn reads a value or is one of the last two, so there are fewer to come.
    have fewer := Vigil.turnsLeft_own possible
    obtain ⟨rest, w, run, own, done⟩ := Vigil.comes_to_rest test u
    refine ⟨_, w, (History.single possible).append run, ?_, done⟩
    simpa using own
termination_by v.turnsLeft

theorem Vigil.frame_run {rest : List (Moment (Vigil α ε σ) (Vigil.Move α ε))}
    (run : History (Vigil.step test) v rest w) (own : ∀ m ∈ rest, m.action = .own) :
    w.state.isEnded = v.state.isEnded ∧ w.state.transition = v.state.transition ∧
      rest.flatMap Vigil.accepted = [] := by
  induction run with
  | start => exact ⟨rfl, rfl, rfl⟩
  | @next past s t move _ hs ih =>
    obtain ⟨ended, transition, nothing⟩ := ih fun m hm => own m (List.mem_append_left _ hm)
    obtain rfl : move = .own := own ⟨s, move⟩ (by simp)
    obtain ⟨ended', transition'⟩ := Vigil.frame_own hs
    exact ⟨ended'.trans ended, transition'.trans transition, by simp [nothing, Vigil.accepted]⟩

/-- A wait that has a stream and nothing to do has read all of it, and it is open; or it has
resolved. -/
theorem Attends.at_rest (h : Attends test memory id v.state examined sent v.wait)
    (has : v.state.transition ≠ .starting id) (rest : v.step test .own = none) :
    (∃ later, v.wait = .following id later ∧ v.state.isEnded = false ∧ examined = sent) ∨
      ∃ found, v.wait = .settled found := by
  obtain ⟨b, wait⟩ := v
  have able (l : Listener α) (found : b.listener? id = some l) :=
    Broadcaster.able_of_holds (show b.holds id = true by simp [Broadcaster.holds, found, has])
  -- At rest no turn is possible, so the wait is where it would take none.
  have idle {action : Broadcaster.Action α ε} {after : Wait α σ}
      (turn : Wait.Turn test b wait action after) : ¬ (b.step action).isSome = true := by
    intro possible
    obtain ⟨c, stepped⟩ := Option.isSome_iff_exists.1 possible
    have moves : (Vigil.mk b wait).step test .own = some ⟨c, after⟩ :=
      Vigil.step_own_eq_some.2 ⟨action, turn, stepped⟩
    rw [rest] at moves
    cases moves
  cases h with
  | following follows rejects =>
    obtain ⟨l, found, isOpen, whole⟩ := follows
    refine .inl ⟨_, rfl, ?_⟩
    cases unread : l.unread with
    | cons a more => exact absurd (able l found).1 (idle (.reads found unread))
    | nil =>
      cases closed : l.attached with
      | false => exact absurd (able l found).2 (idle (.ends found unread closed))
      | true =>
        rw [unread, List.append_nil] at whole
        exact ⟨by simpa [closed] using isOpen, whole⟩
  | leaving follows =>
    obtain ⟨l, found, -, -⟩ := follows
    exact absurd (able l found).2 (idle (.leaves ..))
  | found | gaveUp => exact .inr ⟨_, rfl⟩

end Runs

/-! ## The first match -/

namespace Vigil

variable (test : σ → α → Bool × σ) (memory : σ) (examined sent : List α)

/-- What was put to a test of what was sent is a first part of it, nothing after a value that was
accepted, and an outcome says what the test makes of all that was sent. -/
structure Keeps (v : Vigil α ε σ) : Prop where
  inOrder : examined <+: sent
  noneAfter : Rejects test memory examined.dropLast
  remembers : ∀ id later, v.wait = .following id later → later = memoryAfter test memory examined
  found : ∀ a, v.wait = .settled (some a) → FirstMatch test memory sent a
  gaveUp : v.wait = .settled none →
    v.state.isEnded = true ∧ examined = sent ∧ Rejects test memory sent

/-- What the test makes of all that was sent, together with the end of the broadcaster, decides
how far a wait has come. -/
structure Decided (v : Vigil α ε σ) : Prop where
  found : ∀ a, v.wait = .settled (some a) ↔ FirstMatch test memory sent a
  gaveUp : v.wait = .settled none ↔ v.state.isEnded = true ∧ Rejects test memory sent
  waits : (∃ id later, v.wait = .following id later) ↔
    v.state.isEnded = false ∧ Rejects test memory sent
  whole : Rejects test memory sent → examined = sent

end Vigil

section Outcome

variable {test : σ → α → Bool × σ} {memory : σ} {id : Nat} {v : Vigil α ε σ}
  {examined sent : List α}

theorem Attends.keeps (h : Attends test memory id v.state examined sent v.wait) :
    v.Keeps test memory examined sent := by
  obtain ⟨b, wait⟩ := v
  cases h with
  | following follows rejects =>
    exact ⟨follows.within, rejects.dropLast, by rintro _ _ ⟨⟩; rfl, nofun, nofun⟩
  | leaving follows accepts => exact ⟨follows.within, accepts.rejects_dropLast, nofun, nofun, nofun⟩
  | found gone within accepts =>
    refine ⟨within, accepts.rejects_dropLast, nofun, ?_, nofun⟩
    rintro _ ⟨⟩
    exact accepts.firstMatch within
  | gaveUp gone ended whole rejects =>
    subst whole
    exact ⟨List.prefix_rfl, rejects.dropLast, nofun, nofun, fun _ => ⟨ended, rfl, rejects⟩⟩

theorem Attends.gone {found : Option α} (h : Attends test memory id v.state examined sent v.wait)
    (settled : v.wait = .settled found) : v.state.listener? id = none := by
  rw [settled] at h
  cases h with
  | found gone | gaveUp gone => exact gone

theorem Attends.decided (h : Attends test memory id v.state examined sent v.wait)
    (has : v.state.transition ≠ .starting id) (rest : v.step test .own = none) :
    v.Decided test memory examined sent := by
  have stands := h.at_rest has rest
  obtain ⟨b, wait⟩ := v
  cases h with
  | following follows rejects =>
    obtain ⟨later, -, isOpen, rfl⟩ | ⟨found, settled⟩ := stands
    · exact ⟨fun a => ⟨nofun, fun first => (first.not_rejects rejects).elim⟩,
        ⟨nofun, fun ⟨ended, _⟩ => by simp [isOpen] at ended⟩,
        ⟨fun _ => ⟨isOpen, rejects⟩, fun _ => ⟨_, _, rfl⟩⟩, fun _ => rfl⟩
    · cases settled
  | leaving => obtain ⟨later, settled, -⟩ | ⟨found, settled⟩ := stands <;> cases settled
  | @found a gone within accepts =>
    have first := accepts.firstMatch within
    refine ⟨fun b => ⟨by rintro ⟨⟩; exact first, fun other => by rw [first.unique other]⟩,
      ⟨nofun, fun ⟨_, rejects⟩ => (first.not_rejects rejects).elim⟩,
      ⟨nofun, fun ⟨_, rejects⟩ => (first.not_rejects rejects).elim⟩,
      fun rejects => (first.not_rejects rejects).elim⟩
  | gaveUp gone ended whole rejects =>
    subst whole
    exact ⟨fun a => ⟨nofun, fun first => (first.not_rejects rejects).elim⟩,
      ⟨fun _ => ⟨ended, rejects⟩, fun _ => rfl⟩,
      ⟨nofun, fun ⟨isOpen, _⟩ => by simp [isOpen] at ended⟩, fun _ => rfl⟩

end Outcome

/-- A wait finds the first match. Whenever somebody begins to wait at a broadcaster, with whatever
test, and whatever happens then in any order: the value of the moment and the updates accepted since
are put to the test, each once and in their order, and nothing after the first that is accepted. The
wait resolves with a value only if that is the first match, and without one only if the broadcaster
has ended and nothing that was sent matches; its listener is dropped then. And as soon as it has its
stream, its own turns alone lead to where it has resolved with the first match if there is one,
without a value if the broadcaster has ended, what was sent before the end examined, and to where it
waits otherwise. -/
theorem first_match_is_found {driven : Bool} {value : α} {test : σ → α → Bool × σ} {memory : σ}
    {s t : Broadcaster α ε} {v : Vigil α ε σ} {past : List (Moment (Vigil α ε σ) (Vigil.Move α ε))}
    (reached : Broadcaster.Reachable driven value s) (subscribed : s.step .subscribe = some t)
    (run : History (Vigil.step test) ⟨t, .following s.nextId memory⟩ past v) :
    v.Keeps test memory (past.flatMap Vigil.examined) (s.value :: past.flatMap Vigil.accepted) ∧
    (∀ found, v.wait = .settled found → v.state.listener? s.nextId = none) ∧
    (v.state.transition ≠ .starting s.nextId →
      ∃ rest w, History (Vigil.step test) v rest w ∧ (∀ m ∈ rest, m.action = .own) ∧
        w.step test .own = none ∧ w.state.isEnded = v.state.isEnded ∧
        w.Decided test memory ((past ++ rest).flatMap Vigil.examined)
          (s.value :: past.flatMap Vigil.accepted)) := by
  obtain ⟨begins, given⟩ := attends_subscribe test memory reached subscribed
  have attends := (attends_run begins given run).1
  refine ⟨attends.keeps, fun found settled => attends.gone settled, fun has => ?_⟩
  obtain ⟨rest, w, further, own, done⟩ := Vigil.comes_to_rest test v
  obtain ⟨ended, transition, nothing⟩ := Vigil.frame_run further own
  have later := (attends_run begins given (run.append further)).1
  have sent : (past ++ rest).flatMap Vigil.accepted = past.flatMap Vigil.accepted := by
    rw [List.flatMap_append, nothing, List.append_nil]
  rw [sent] at later
  exact ⟨rest, w, further, own, done, ended, later.decided (by rwa [transition]) done⟩

/-- A test that looks at the sum so far, an update from inside the start, and a match that was sent
before the end and is examined after it. -/
theorem match_before_the_end_is_found :
    ∃ past v, History (Vigil.step fun sum a => (decide (3 < sum + a), sum + a))
        (⟨⟨1, [⟨0, [1], true⟩], 1, true, 1, none, true, .starting 0, [], 1, [.start]⟩,
          .following 0 0⟩ : Vigil Nat String Nat) past v ∧
      v.state.isEnded = true ∧ v.wait = .following 0 1 ∧
      ∃ rest w, History (Vigil.step fun sum a => (decide (3 < sum + a), sum + a)) v rest w ∧
        (∀ m ∈ rest, m.action = .own) ∧ w.wait = .settled (some 5) := by
  have run := @History.of_run _ _ (Vigil.step fun sum a => (decide (3 < sum + a), sum + a))
    (fun moves v => moves.foldlM
      (fun v move => Vigil.step (fun sum a => (decide (3 < sum + a), sum + a)) move v) v)
    (fun _ => rfl) (fun _ _ _ => rfl)
    [.other (.publish 1), .other .started, .own, .other (.publish 5), .other (.finish .completed)]
    (⟨⟨1, [⟨0, [1], true⟩], 1, true, 1, none, true, .starting 0, [], 1, [.start]⟩,
      .following 0 0⟩ : Vigil Nat String Nat)
    ⟨⟨5, [⟨0, [1, 5], false⟩], 1, true, 1, some .completed, true, .none, [], 1, [.start]⟩,
      .following 0 1⟩ (by decide)
  obtain ⟨rest, w, further, own, -, -, decided⟩ :=
    (first_match_is_found (.start : Broadcaster.Reachable true 1 _) (by decide) run).2.2 (by decide)
  exact ⟨_, _, run, rfl, rfl, rest, w, further, own,
    (decided.found 5).2 ⟨[1, 1], [], by decide, ⟨by decide, by decide, trivial⟩, by decide⟩⟩

end Tendermint
