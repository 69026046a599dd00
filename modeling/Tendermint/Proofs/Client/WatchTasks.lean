import Tendermint.Client.HeightWatch
import Tendermint.Proofs.Broadcaster.Debounce

/-!
# Tendermint.Proofs.Client.WatchTasks

The tasks behind a height watch. A task is wanted until it is aborted or comes to its end; the one
that is wanted is the one that the producer holds, from the start that spawned it to the stop that
aborts it. A task that was aborted is spent as soon as no poll of it is under way: it is never
polled again.

* `HeightWatch.Effect`: what each action does, and when it is possible.
* `HeightWatch.Coherent`, `HeightWatch.coherent_step`: what every step keeps.
* `HeightWatch.taskIs_step`: what a task never loses.
* `HeightWatch.isPolled_of_turn`: a turn of a task comes in a poll of it.
-/

namespace Tendermint

namespace WatchTask

/-- It was not aborted, and has not come to its end. -/
def isWanted : WatchTask → Bool
  | .live _ _ aborted => !aborted
  | .gone => false

/-- It is never polled again. -/
def isSpent : WatchTask → Bool
  | .live _ polled aborted => !polled && aborted
  | .gone => true

/-- What a task does not lose again, whatever happens to it. -/
structure Kept (state : WatchTask → Bool) : Prop where
  beginPoll : ∀ task, task.isIdle = true → state task = true → state task.beginPoll = true
  endPoll : ∀ task, state task = true → state task.endPoll = true
  follow : ∀ task, state task = true → state task.follow = true
  abort : ∀ task, state task = true → state task.abort = true
  gone : state .gone = true

theorem kept_unwanted : Kept fun task => !task.isWanted where
  beginPoll task := by cases task <;> simp [isWanted, isIdle, beginPoll]
  endPoll task := by cases task <;> simp [isWanted, endPoll]
  follow task := by cases task <;> simp [isWanted, WatchTask.follow]
  abort task := by cases task <;> simp [isWanted, WatchTask.abort]
  gone := rfl

theorem kept_spent : Kept isSpent where
  beginPoll task := by cases task <;> simp_all [isSpent, isIdle, beginPoll]
  endPoll task := by cases task <;> simp_all [isSpent, endPoll]
  follow task := by cases task <;> simp_all [isSpent, WatchTask.follow]
  abort task := by cases task <;> simp_all [isSpent, WatchTask.abort]
  gone := rfl

/-- A task that was aborted goes on only in a poll. -/
theorem isSpent_of_unwanted {task : WatchTask} (unwanted : task.isWanted = false)
    (unpolled : task.isPolled = false) : task.isSpent = true := by
  cases task <;> simp_all [isWanted, isPolled, isSpent]

end WatchTask

namespace HeightWatch

open Broadcaster (Alternating)

/-! ## Changing one task -/

section Tasks

variable {watch : HeightWatch} {task other : Nat} {f : WatchTask → WatchTask}
  {state : WatchTask → Bool}

theorem taskIs_iff : watch.taskIs state task = true ↔
    ∃ found, watch.tasks[task]? = some found ∧ state found = true := by
  rw [taskIs]
  cases watch.tasks[task]? <;> simp

theorem getElem?_modifyTask (watch : HeightWatch) (task : Nat) (f : WatchTask → WatchTask)
    (other : Nat) : (watch.modifyTask task f).tasks[other]? =
      if task = other then watch.tasks[other]?.map f else watch.tasks[other]? := by
  rw [modifyTask, List.getElem?_modify]
  split <;> simp

/-- What a task was before, if the change cannot have made it so. -/
theorem taskIs_of_modifyTask (reflects : ∀ found, state (f found) = true → state found = true)
    (now : (watch.modifyTask task f).taskIs state other = true) :
    watch.taskIs state other = true := by
  obtain ⟨found, there, is⟩ := taskIs_iff.1 now
  rw [getElem?_modifyTask] at there
  split at there
  · obtain ⟨earlier, before, rfl⟩ := Option.map_eq_some_iff.1 there
    exact taskIs_iff.2 ⟨earlier, before, reflects earlier is⟩
  · exact taskIs_iff.2 ⟨found, there, is⟩

/-- What a task still is, if the change leaves it so. -/
theorem taskIs_modifyTask (before : watch.taskIs state other = true)
    (keeps : ∀ found, watch.tasks[task]? = some found → state found = true →
      state (f found) = true) : (watch.modifyTask task f).taskIs state other = true := by
  obtain ⟨found, there, is⟩ := taskIs_iff.1 before
  rw [taskIs_iff, getElem?_modifyTask]
  split
  · next same =>
    subst same
    exact ⟨f found, by rw [there, Option.map_some], keeps found there is⟩
  · exact ⟨found, there, is⟩

theorem taskIs_leave_of_ne (different : task ≠ other) :
    (watch.leave task).taskIs state other = watch.taskIs state other := by
  rw [taskIs, leave, getElem?_modifyTask, if_neg different, taskIs]

theorem isSpent_leave (there : watch.taskIs state task = true) :
    (watch.leave task).taskIs WatchTask.isSpent task = true := by
  obtain ⟨found, here, -⟩ := taskIs_iff.1 there
  rw [taskIs, leave, getElem?_modifyTask, if_pos rfl, here]
  rfl

theorem length_modifyTask (watch : HeightWatch) (task : Nat) (f : WatchTask → WatchTask) :
    (watch.modifyTask task f).tasks.length = watch.tasks.length :=
  List.length_modify f watch.tasks task

theorem length_abortHeld (watch : HeightWatch) :
    watch.abortHeld.tasks.length = watch.tasks.length := by
  rw [abortHeld]
  cases watch.held with
  | none => rfl
  | some last => exact length_modifyTask watch last .abort

end Tasks

/-! ## What each action does -/

/-- The task that has a turn: its subscription stands or is refused, or its feed is read. -/
def Action.task? : Action → Option Nat
  | .opened task | .refused task _ | .item task _ | .feedEnds task => some task
  | _ => none

/-- What an action does, and when it is possible. -/
def Effect : Action → HeightWatch → HeightWatch → Prop
  | .listeners action, watch, after =>
    ∃ next, watch.broadcaster.step action = some next ∧
      after = { watch with broadcaster := next } ∧ (isReturn action = true → watch.due = none)
  | .carryOut runtime, watch, after =>
    ∃ call, watch.due = some call ∧
      after = { watch.obey runtime call with carriedOut := watch.carriedOut + 1 }
  | .poll task, watch, after =>
    watch.taskIs WatchTask.isIdle task = true ∧ after = watch.modifyTask task .beginPoll
  | .pending task, watch, after =>
    watch.taskIs WatchTask.isPolled task = true ∧ after = watch.modifyTask task .endPoll
  | .drop task, watch, after =>
    watch.taskIs WatchTask.isDroppable task = true ∧ after = watch.leave task
  | .opened task, watch, after =>
    watch.taskIs (WatchTask.isAt .opening) task = true ∧ after = watch.modifyTask task .follow
  | .refused task error, watch, after =>
    watch.taskIs (WatchTask.isAt .opening) task = true ∧
      after = watch.conclude task (.failed error)
  | .item task item, watch, after =>
    watch.taskIs (WatchTask.isAt .following) task = true ∧ after = watch.read task item
  | .feedEnds task, watch, after =>
    watch.taskIs (WatchTask.isAt .following) task = true ∧ after = watch.conclude task .completed

section Steps

variable {watch after : HeightWatch} {task : Nat} {action : Action} {state : WatchTask → Bool}

theorem effect_of_step (hs : watch.step action = some after) : Effect action watch after := by
  cases action with
  | listeners action =>
    obtain ⟨carriedOut, hs⟩ := Option.ite_none_left_eq_some.1 hs
    obtain ⟨next, stepped, rfl⟩ := Option.map_eq_some_iff.1 hs
    exact ⟨next, stepped, rfl, fun returns => by simpa [returns] using carriedOut⟩
  | carryOut runtime =>
    obtain ⟨call, due, rfl⟩ := Option.map_eq_some_iff.1 hs
    exact ⟨call, due, rfl⟩
  | poll | pending | drop | opened | refused | item | feedEnds =>
    obtain ⟨possible, hs⟩ := Option.ite_none_right_eq_some.1 hs
    exact ⟨possible, (Option.some.inj hs).symm⟩

/-- A task says something to the broadcaster, or that is not there any more. -/
theorem say_cases (action : Broadcaster.Action UInt64 ClientError) (watch : HeightWatch) :
    watch.broadcaster.step action = none ∧ watch.say action = watch ∨
      ∃ next, watch.broadcaster.step action = some next ∧
        watch.say action = { watch with broadcaster := next } := by
  rw [say]
  cases watch.broadcaster.step action with
  | none => exact .inl ⟨rfl, rfl⟩
  | some next => exact .inr ⟨next, rfl, rfl⟩

theorem tasks_say (action : Broadcaster.Action UInt64 ClientError) (watch : HeightWatch) :
    (watch.say action).tasks = watch.tasks := by
  obtain ⟨-, same⟩ | ⟨next, -, same⟩ := say_cases action watch <;> rw [same]

theorem held_say (action : Broadcaster.Action UInt64 ClientError) (watch : HeightWatch) :
    (watch.say action).held = watch.held := by
  obtain ⟨-, same⟩ | ⟨next, -, same⟩ := say_cases action watch <;> rw [same]

theorem taskIs_say (action : Broadcaster.Action UInt64 ClientError) (watch : HeightWatch) :
    (watch.say action).taskIs state task = watch.taskIs state task := by
  rw [taskIs, tasks_say, taskIs]

theorem length_conclude (task : Nat) (ending : Ending ClientError) (watch : HeightWatch) :
    (watch.conclude task ending).tasks.length = watch.tasks.length := by
  rw [conclude, leave, length_modifyTask, tasks_say]

theorem length_read (task : Nat) (item : Except ClientError Header) (watch : HeightWatch) :
    (watch.read task item).tasks.length = watch.tasks.length := by
  cases item with
  | ok header =>
    rw [HeightWatch.read]
    split
    · rw [tasks_say]
    · exact length_modifyTask watch _ _
  | error e =>
    rw [HeightWatch.read]
    split
    · exact length_conclude _ _ _
    · rfl

theorem held_read (task : Nat) (item : Except ClientError Header) (watch : HeightWatch) :
    (watch.read task item).held = watch.held := by
  cases item with
  | ok header =>
    rw [HeightWatch.read]
    split
    · exact held_say _ watch
    · rfl
  | error e =>
    rw [HeightWatch.read]
    split
    · exact held_say _ watch
    · rfl

/-! ## What a task never loses -/

section Kept

variable (kept : WatchTask.Kept state)
include kept

theorem taskIs_leave {other : Nat} (before : watch.taskIs state task = true) :
    (watch.leave other).taskIs state task = true :=
  taskIs_modifyTask before fun _ _ _ => kept.gone

theorem taskIs_conclude {other : Nat} (ending : Ending ClientError)
    (before : watch.taskIs state task = true) :
    (watch.conclude other ending).taskIs state task = true := by
  refine taskIs_leave kept ?_
  rwa [taskIs_say]

theorem taskIs_abortHeld (before : watch.taskIs state task = true) :
    watch.abortHeld.taskIs state task = true := by
  rw [abortHeld]
  cases watch.held with
  | none => exact before
  | some other =>
    have marked : (watch.modifyTask other .abort).taskIs state task = true :=
      taskIs_modifyTask before fun found _ => kept.abort found
    exact marked

theorem taskIs_spawn (before : watch.taskIs state task = true) :
    watch.spawn.taskIs state task = true := by
  obtain ⟨found, there, is⟩ := taskIs_iff.1 (taskIs_abortHeld kept before)
  refine taskIs_iff.2 ⟨found, ?_, is⟩
  rw [spawn, List.getElem?_append_left (List.getElem?_eq_some_iff.1 there).1, there]

theorem taskIs_read {other : Nat} (item : Except ClientError Header)
    (before : watch.taskIs state task = true) :
    (watch.read other item).taskIs state task = true := by
  cases item with
  | ok header =>
    rw [HeightWatch.read]
    split
    · rwa [taskIs_say]
    · exact taskIs_leave kept before
  | error e =>
    rw [HeightWatch.read]
    split
    · exact taskIs_conclude kept _ before
    · exact before

theorem taskIs_obey (runtime : Bool) (call : ProducerCall)
    (before : watch.taskIs state task = true) :
    (watch.obey runtime call).taskIs state task = true := by
  cases call with
  | start =>
    rw [obey]
    split
    · exact taskIs_spawn kept before
    · rwa [taskIs_say]
  | stop => exact taskIs_abortHeld kept before

/-- What a task does not lose by itself it keeps, whatever happens. -/
theorem taskIs_step (hs : watch.step action = some after)
    (before : watch.taskIs state task = true) : after.taskIs state task = true := by
  have effect := effect_of_step hs
  cases action with
  | listeners action =>
    obtain ⟨next, -, rfl, -⟩ := effect
    exact before
  | carryOut runtime =>
    obtain ⟨call, -, rfl⟩ := effect
    exact taskIs_obey kept runtime call before
  | poll other =>
    obtain ⟨idle, rfl⟩ := effect
    refine taskIs_modifyTask before fun found there => kept.beginPoll found ?_
    obtain ⟨same, here, able⟩ := taskIs_iff.1 idle
    rw [there] at here
    cases here
    exact able
  | pending other =>
    obtain ⟨-, rfl⟩ := effect
    exact taskIs_modifyTask before fun found _ => kept.endPoll found
  | drop other =>
    obtain ⟨-, rfl⟩ := effect
    exact taskIs_leave kept before
  | opened other =>
    obtain ⟨-, rfl⟩ := effect
    exact taskIs_modifyTask before fun found _ => kept.follow found
  | refused other error =>
    obtain ⟨-, rfl⟩ := effect
    exact taskIs_conclude kept _ before
  | item other item =>
    obtain ⟨-, rfl⟩ := effect
    exact taskIs_read kept item before
  | feedEnds other =>
    obtain ⟨-, rfl⟩ := effect
    exact taskIs_conclude kept _ before

end Kept

/-- A turn of a task comes in a poll of it. -/
theorem isPolled_of_turn (hs : watch.step action = some after) (turn : action.task? = some task) :
    watch.taskIs WatchTask.isPolled task = true := by
  have polled {stage : WatchStage} (is : watch.taskIs (WatchTask.isAt stage) task = true) :
      watch.taskIs WatchTask.isPolled task = true := by
    obtain ⟨found, there, is⟩ := taskIs_iff.1 is
    refine taskIs_iff.2 ⟨found, there, ?_⟩
    cases found with
    | live => exact (Bool.and_eq_true_iff.1 is).1
    | gone => cases is
  have effect := effect_of_step hs
  cases action with
  | listeners | carryOut | poll | pending | drop => cases turn
  | opened | refused | item | feedEnds =>
    cases turn
    exact polled effect.1

theorem not_isPolled_of_isSpent (spent : watch.taskIs WatchTask.isSpent task = true) :
    watch.taskIs WatchTask.isPolled task = false := by
  obtain ⟨found, there, is⟩ := taskIs_iff.1 spent
  rw [taskIs, there]
  cases found <;> simp_all [WatchTask.isSpent, WatchTask.isPolled]

/-! ## What every step keeps -/

/-- The calls of the producer take turns and are carried out in their order, each before it returns.
The producer holds a task only between a start and the stop after it, and only the one that it holds
is wanted. -/
structure Coherent (watch : HeightWatch) : Prop where
  alternating : Alternating watch.broadcaster
  carriedOut : watch.carriedOut ≤ watch.broadcaster.calls.length
  inTurn : watch.broadcaster.calls.length ≤ watch.carriedOut + 1
  busy : watch.due.isSome = true →
    watch.broadcaster.transition ≠ .none ∨ watch.broadcaster.isAbandoned = true
  holds : watch.held.isSome = true → watch.carriedOut % 2 = 1
  wanted : ∀ task, watch.taskIs WatchTask.isWanted task = true → watch.held = some task

theorem coherent_ofHeight (height : UInt64) : Coherent (ofHeight height) where
  alternating := ⟨rfl, rfl, by simp [ofHeight, Broadcaster.ofValue], fun l hl => (by cases hl),
    fun hs => (by cases hs)⟩
  carriedOut := Nat.le_refl _
  inTurn := Nat.zero_le _
  busy due := by cases due
  holds held := by cases held
  wanted task is := by cases is

theorem due_eq_none : watch.due = none ↔ watch.broadcaster.calls.length ≤ watch.carriedOut :=
  List.getElem?_eq_none_iff

theorem Coherent.broadcaster {next : Broadcaster UInt64 ClientError}
    {action : Broadcaster.Action UInt64 ClientError} (h : watch.Coherent)
    (stepped : watch.broadcaster.step action = some next)
    (returns : isReturn action = true → watch.due = none) :
    Coherent { watch with broadcaster := next } := by
  -- Without a call under way there is none to be carried out.
  have rested (idle : watch.broadcaster.transition = .none) : watch.due = none := by
    by_contra due
    obtain busy | abandoned := h.busy (Option.isSome_iff_ne_none.2 due)
    · exact busy idle
    · rw [Broadcaster.no_step_of_isAbandoned abandoned] at stepped
      cases stepped
  have carriedOut := h.carriedOut
  have inTurn := h.inTurn
  refine ⟨Broadcaster.alternating_step h.alternating stepped, ?_, ?_, fun due => ?_, h.holds,
    h.wanted⟩
  · obtain same | ⟨-, call, grown⟩ := Broadcaster.calls_step h.alternating stepped
    · simpa only [same] using carriedOut
    · simp only [grown, List.length_append]
      omega
  · obtain same | ⟨idle, call, grown⟩ := Broadcaster.calls_step h.alternating stepped
    · simpa only [same] using inTurn
    · have all := due_eq_none.1 (rested idle)
      simp only [grown, List.length_append, List.length_singleton]
      omega
  · obtain busy | abandoned | ⟨same, quiet⟩ := Broadcaster.transition_step h.alternating stepped
    · exact .inl busy
    · exact .inr abandoned
    · have none_due : watch.due = none := by
        obtain idle | rfl | rfl := quiet
        · exact rested idle
        · exact returns rfl
        · exact returns rfl
      have still : (HeightWatch.due { watch with broadcaster := next }) = watch.due := by
        simp only [HeightWatch.due, same]
      rw [still, none_due] at due
      cases due

theorem Coherent.say {action : Broadcaster.Action UInt64 ClientError} (h : watch.Coherent)
    (saying : isReturn action = false) : (watch.say action).Coherent := by
  obtain ⟨-, same⟩ | ⟨next, stepped, same⟩ := say_cases action watch
  · rwa [same]
  · rw [same]
    exact h.broadcaster stepped fun returns => by simp [saying] at returns

theorem Coherent.modifyTask {f : WatchTask → WatchTask} (h : watch.Coherent)
    (reflects : ∀ found, (f found).isWanted = true → found.isWanted = true) :
    (watch.modifyTask task f).Coherent where
  alternating := h.alternating
  carriedOut := h.carriedOut
  inTurn := h.inTurn
  busy := h.busy
  holds := h.holds
  wanted other is := h.wanted other (taskIs_of_modifyTask reflects is)

theorem Coherent.leave (h : watch.Coherent) : (watch.leave task).Coherent :=
  h.modifyTask fun _ gone => (by cases gone)

theorem Coherent.conclude (h : watch.Coherent) (ending : Ending ClientError) :
    (watch.conclude task ending).Coherent := (h.say rfl).leave

theorem Coherent.read (h : watch.Coherent) (item : Except ClientError Header) :
    (watch.read task item).Coherent := by
  cases item with
  | ok header =>
    rw [HeightWatch.read]
    split
    · exact h.say rfl
    · exact h.leave
  | error e =>
    rw [HeightWatch.read]
    split
    · exact h.conclude _
    · exact h

/-- The call that is due is carried out at its turn. -/
theorem Coherent.due {call : ProducerCall} (h : watch.Coherent) (due : watch.due = some call) :
    watch.carriedOut < watch.broadcaster.calls.length ∧
      Broadcaster.turn watch.carriedOut = call := by
  rw [HeightWatch.due, h.alternating.calls] at due
  exact Broadcaster.getElem?_turns due

/-- When a start is due the producer holds nothing. -/
theorem Coherent.unheld (h : watch.Coherent) (due : watch.due = some .start) :
    watch.held = none := by
  have even := Broadcaster.turn_eq_start.1 (h.due due).2
  cases held : watch.held with
  | none => rfl
  | some task =>
    have odd := h.holds (by rw [held]; rfl)
    omega

/-- Nothing is wanted any more once the task that was held is aborted. -/
theorem unwanted_abortHeld (h : watch.Coherent) (task : Nat) :
    watch.abortHeld.taskIs WatchTask.isWanted task = false := by
  rw [Bool.eq_false_iff]
  intro wanted
  cases held : watch.held with
  | none =>
    rw [abortHeld, held] at wanted
    have known := h.wanted task wanted
    rw [held] at known
    cases known
  | some last =>
    rw [abortHeld, held] at wanted
    have before : (watch.modifyTask last .abort).taskIs WatchTask.isWanted task = true := wanted
    obtain ⟨found, there, is⟩ := taskIs_iff.1 before
    have reflects (found : WatchTask) (aborted : found.abort.isWanted = true) :
        found.isWanted = true := by cases found <;> cases aborted
    have same : last = task := by
      have known := h.wanted task (taskIs_of_modifyTask reflects before)
      exact Option.some.inj (held.symm.trans known)
    rw [getElem?_modifyTask, if_pos same] at there
    obtain ⟨earlier, -, rfl⟩ := Option.map_eq_some_iff.1 there
    cases earlier <;> cases is

/-- One more call is carried out. -/
theorem Coherent.carry {call : ProducerCall} (h : watch.Coherent) (due : watch.due = some call)
    (alternating : Alternating after.broadcaster)
    (calls : after.broadcaster.calls = watch.broadcaster.calls)
    (holds : after.held.isSome = true → call = .start)
    (wanted : ∀ task, after.taskIs WatchTask.isWanted task = true → after.held = some task) :
    Coherent { after with carriedOut := watch.carriedOut + 1 } := by
  obtain ⟨before, turn⟩ := h.due due
  have inTurn := h.inTurn
  have all : HeightWatch.due { after with carriedOut := watch.carriedOut + 1 } = none := by
    rw [due_eq_none]
    simpa only [calls] using inTurn
  refine ⟨alternating, ?_, ?_, fun due => ?_, fun held => ?_, wanted⟩
  · simp only [calls]
    omega
  · simp only [calls]
    omega
  · rw [all] at due
    cases due
  · have even := Broadcaster.turn_eq_start.1 (turn.trans (holds held))
    change (watch.carriedOut + 1) % 2 = 1
    omega

/-- A start finds nothing to abort. -/
theorem Coherent.spawn_eq (h : watch.Coherent) (due : watch.due = some .start) :
    watch.spawn = { watch with
      tasks := watch.tasks ++ [.live .opening false false], held := some watch.tasks.length } := by
  have alone : watch.abortHeld = watch := by rw [abortHeld, h.unheld due]
  rw [spawn, alone]

theorem Coherent.start (h : watch.Coherent) (due : watch.due = some .start) :
    Coherent { watch.spawn with carriedOut := watch.carriedOut + 1 } := by
  rw [h.spawn_eq due]
  refine h.carry due h.alternating rfl (fun _ => rfl) fun task is => ?_
  obtain ⟨found, there, wanted⟩ := taskIs_iff.1 is
  by_cases earlier : task < watch.tasks.length
  · rw [List.getElem?_append_left earlier] at there
    have known := h.wanted task (taskIs_iff.2 ⟨found, there, wanted⟩)
    rw [h.unheld due] at known
    cases known
  · have inside := (List.getElem?_eq_some_iff.1 there).1
    rw [List.length_append, List.length_singleton] at inside
    obtain rfl : watch.tasks.length = task := by omega
    rfl

/-- A start outside of any runtime. -/
theorem Coherent.refuse (h : watch.Coherent) (due : watch.due = some .start)
    (ending : Ending ClientError) :
    Coherent { watch.say (.finish ending) with carriedOut := watch.carriedOut + 1 } := by
  have said : (watch.say (.finish ending)).Coherent := h.say rfl
  refine h.carry due said.alternating ?_ (fun _ => rfl) said.wanted
  cases reached : watch.broadcaster.isAbandoned with
  | true => rw [HeightWatch.say, Broadcaster.no_step_of_isAbandoned reached]
  | false =>
    rw [HeightWatch.say, Broadcaster.step_finish reached]
    change (watch.broadcaster.finish ending).calls = _
    rw [Broadcaster.finish_eq]

theorem broadcaster_abortHeld (watch : HeightWatch) :
    watch.abortHeld.broadcaster = watch.broadcaster := by
  rw [abortHeld]
  cases watch.held <;> rfl

theorem held_abortHeld (watch : HeightWatch) : watch.abortHeld.held = none := by
  rw [abortHeld]
  cases held : watch.held
  · exact held
  · rfl

theorem Coherent.stop (h : watch.Coherent) (due : watch.due = some .stop) :
    Coherent { watch.abortHeld with carriedOut := watch.carriedOut + 1 } := by
  refine h.carry due (broadcaster_abortHeld watch ▸ h.alternating) ?_ (fun held => ?_)
    fun task wanted => ?_
  · rw [broadcaster_abortHeld]
  · rw [held_abortHeld] at held
    cases held
  · rw [unwanted_abortHeld h] at wanted
    cases wanted

theorem coherent_carryOut {runtime : Bool} {call : ProducerCall} (h : watch.Coherent)
    (due : watch.due = some call) :
    Coherent { watch.obey runtime call with carriedOut := watch.carriedOut + 1 } := by
  cases call with
  | stop => exact h.stop due
  | start =>
    rw [obey]
    split
    · exact h.start due
    · exact h.refuse due _

/-- Every step keeps a watch coherent. -/
theorem coherent_step (h : watch.Coherent) (hs : watch.step action = some after) :
    after.Coherent := by
  have effect := effect_of_step hs
  cases action with
  | listeners action =>
    obtain ⟨next, stepped, rfl, returns⟩ := effect
    exact h.broadcaster stepped returns
  | carryOut runtime =>
    obtain ⟨call, due, rfl⟩ := effect
    exact coherent_carryOut h due
  | poll task =>
    obtain ⟨-, rfl⟩ := effect
    exact h.modifyTask fun found => by cases found <;> exact id
  | pending task =>
    obtain ⟨-, rfl⟩ := effect
    exact h.modifyTask fun found => by cases found <;> exact id
  | drop task =>
    obtain ⟨-, rfl⟩ := effect
    exact h.leave
  | opened task =>
    obtain ⟨-, rfl⟩ := effect
    exact h.modifyTask fun found => by cases found <;> exact id
  | refused task error =>
    obtain ⟨-, rfl⟩ := effect
    exact h.conclude _
  | item task item =>
    obtain ⟨-, rfl⟩ := effect
    exact h.read item
  | feedEnds task =>
    obtain ⟨-, rfl⟩ := effect
    exact h.conclude _

/-- When the producer is called for no more and has carried out its stop, no task is wanted. -/
theorem Coherent.idle (h : watch.Coherent) (off : watch.broadcaster.active = false)
    (done : watch.due = none) : watch.held = none := by
  have all : watch.carriedOut = watch.broadcaster.calls.length := by
    have behind := List.getElem?_eq_none_iff.1 done
    have carriedOut := h.carriedOut
    omega
  have even : ¬ watch.broadcaster.calls.length % 2 = 1 := fun odd => by
    rw [h.alternating.active.2 odd] at off
    cases off
  cases held : watch.held with
  | none => rfl
  | some task =>
    have odd := h.holds (by rw [held]; rfl)
    omega

end Steps

end HeightWatch

end Tendermint
