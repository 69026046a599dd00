import Tendermint.Proofs.Client.WatchTasks
import Tendermint.Proofs.History

/-!
# Tendermint.Proofs.Client.WatchTurns

The turns of the tasks behind a height watch, over every run. A task that is spent has none, so an
abort ends the turns of a task as soon as no poll of it is under way. Short of an abort a task stays
wanted until its last turn: a refused subscription, `TransportClosed`, the end of its feed, or a
header that the broadcaster does not accept.

* `HeightWatch.spent_run`: a task that is spent has no more turns.
* `HeightWatch.unwanted_of_stop`, `HeightWatch.isSpent_of_pending`: what a stop leaves to a task.
* `HeightWatch.isWanted_step`, `HeightWatch.lasts_run`: what makes a task unwanted.
* `HeightWatch.length_run`: the tasks are those that were spawned.
-/

namespace Tendermint

namespace HeightWatch

section Turns

variable {watch after : HeightWatch} {action : Action} {task : Nat}
  {past : List (Moment HeightWatch Action)}

theorem taskIs_run {state : WatchTask → Bool} (kept : WatchTask.Kept state)
    (run : History step watch past after) (before : watch.taskIs state task = true) :
    after.taskIs state task = true :=
  run.invariant before fun now hs => taskIs_step kept hs now

/-- A task that is spent has no more turns. -/
theorem spent_run (run : History step watch past after)
    (spent : watch.taskIs WatchTask.isSpent task = true) :
    ∀ m ∈ past, m.action.task? ≠ some task := by
  intro m mem turn
  obtain ⟨earlier, later, rfl⟩ := List.append_of_mem mem
  obtain ⟨next, before, hs, -⟩ := run.split_at
  have still := taskIs_run WatchTask.kept_spent before spent
  have polled := isPolled_of_turn hs turn
  rw [not_isPolled_of_isSpent still] at polled
  cases polled

theorem isSpent_of_unwanted (unwanted : watch.taskIs (fun found => !found.isWanted) task = true)
    (unpolled : watch.taskIs WatchTask.isPolled task = false) :
    watch.taskIs WatchTask.isSpent task = true := by
  obtain ⟨found, there, is⟩ := taskIs_iff.1 unwanted
  rw [taskIs, there] at unpolled
  exact taskIs_iff.2 ⟨found, there, WatchTask.isSpent_of_unwanted (by simpa using is) unpolled⟩

/-- A task that was aborted is spent after the poll that was under way. -/
theorem isSpent_of_pending (hs : watch.step (.pending task) = some after)
    (unwanted : watch.taskIs (fun found => !found.isWanted) task = true) :
    after.taskIs WatchTask.isSpent task = true := by
  refine isSpent_of_unwanted (taskIs_step WatchTask.kept_unwanted hs unwanted) ?_
  obtain ⟨-, rfl⟩ := effect_of_step hs
  rw [taskIs, getElem?_modifyTask, if_pos rfl]
  cases watch.tasks[task]? with
  | none => rfl
  | some found => cases found <;> rfl

/-- When a stop is carried out no task is wanted any more, and a poll of a task that is under way
was so before. -/
theorem unwanted_of_stop {runtime : Bool} (h : watch.Coherent) (due : watch.due = some .stop)
    (hs : watch.step (.carryOut runtime) = some after) (spawned : task < after.tasks.length) :
    after.taskIs (fun found => !found.isWanted) task = true ∧
      (after.taskIs WatchTask.isPolled task = true →
        watch.taskIs WatchTask.isPolled task = true) := by
  obtain ⟨call, again, rfl⟩ := effect_of_step hs
  obtain rfl : ProducerCall.stop = call := Option.some.inj (due.symm.trans again)
  constructor
  · have unwanted := unwanted_abortHeld h task
    have there := List.getElem?_eq_getElem spawned
    refine taskIs_iff.2 ⟨_, there, ?_⟩
    have found : watch.abortHeld.tasks[task]? = some _ := there
    rw [taskIs, found] at unwanted
    simpa using unwanted
  · intro polled
    have now : watch.abortHeld.taskIs WatchTask.isPolled task = true := polled
    rw [abortHeld] at now
    cases held : watch.held with
    | none => rwa [held] at now
    | some last =>
      rw [held] at now
      have marked : (watch.modifyTask last .abort).taskIs WatchTask.isPolled task = true := now
      exact taskIs_of_modifyTask (fun found => by cases found <;> exact id) marked

/-- Whether a turn is the last one of its task. -/
def isLast (m : Moment HeightWatch Action) : Bool :=
  match m.action with
  | .refused _ _ | .feedEnds _ => true
  | .item _ (.ok _) => !m.before.broadcaster.accepts
  | .item _ (.error e) => e = .rpc .transportClosed
  | _ => false

theorem isSpent_of_isLast (hs : watch.step action = some after) (turn : action.task? = some task)
    (last : isLast ⟨watch, action⟩ = true) : after.taskIs WatchTask.isSpent task = true := by
  have concluded {state : WatchTask → Bool} (ending : Ending ClientError)
      (there : watch.taskIs state task = true) :
      (watch.conclude task ending).taskIs WatchTask.isSpent task = true := by
    have still : (watch.say (.finish ending)).taskIs state task = true := by rwa [taskIs_say]
    exact isSpent_leave still
  have effect := effect_of_step hs
  cases action with
  | listeners | carryOut | poll | pending | drop => cases turn
  | opened => cases last
  | refused other error =>
    cases turn
    obtain ⟨there, rfl⟩ := effect
    exact concluded _ there
  | item other item =>
    cases turn
    obtain ⟨there, rfl⟩ := effect
    cases item with
    | ok header =>
      have refused : watch.broadcaster.accepts = false := by simpa [isLast] using last
      rw [HeightWatch.read, if_neg (by simp [refused])]
      exact isSpent_leave there
    | error e =>
      have closed : e = .rpc .transportClosed := by simpa [isLast] using last
      rw [HeightWatch.read, if_pos closed]
      exact concluded _ there
  | feedEnds other =>
    cases turn
    obtain ⟨there, rfl⟩ := effect
    exact concluded _ there

/-- Whether a task is spawned at a moment. -/
def spawns (m : Moment HeightWatch Action) : Bool :=
  match m.action with
  | .carryOut true => m.before.due = some .start
  | _ => false

theorem length_step (hs : watch.step action = some after) :
    after.tasks.length = watch.tasks.length + [⟨watch, action⟩].countP spawns := by
  have effect := effect_of_step hs
  cases action with
  | listeners =>
    obtain ⟨next, -, rfl, -⟩ := effect
    rfl
  | carryOut runtime =>
    obtain ⟨call, due, rfl⟩ := effect
    cases call with
    | stop =>
      change watch.abortHeld.tasks.length = _
      cases runtime <;> simp [length_abortHeld, spawns, due]
    | start =>
      cases runtime with
      | true =>
        change (watch.abortHeld.tasks ++ [_]).length = _
        simp [length_abortHeld, spawns, due]
      | false =>
        change (watch.say _).tasks.length = _
        simp [tasks_say, spawns]
  | poll | pending | drop | opened =>
    obtain ⟨-, rfl⟩ := effect
    exact length_modifyTask watch _ _
  | refused | feedEnds =>
    obtain ⟨-, rfl⟩ := effect
    exact length_conclude _ _ watch
  | item task item =>
    obtain ⟨-, rfl⟩ := effect
    exact length_read task item watch

theorem length_run (run : History step watch past after) :
    after.tasks.length = watch.tasks.length + past.countP spawns := by
  induction run with
  | start => rfl
  | next _ hs ih => rw [length_step hs, ih, List.countP_append, Nat.add_assoc]

/-- Only its last turn and a stop can make a task unwanted. -/
theorem isWanted_step (h : watch.Coherent) (hs : watch.step action = some after)
    (wanted : watch.taskIs WatchTask.isWanted task = true) :
    after.taskIs WatchTask.isWanted task = true ∨
      action.task? = some task ∧ isLast ⟨watch, action⟩ = true ∨
        ∃ runtime, action = .carryOut runtime ∧ watch.due = some .stop := by
  have concluded {other : Nat} (ending : Ending ClientError) (turn : action.task? = some other)
      (last : isLast ⟨watch, action⟩ = true) :
      (watch.conclude other ending).taskIs WatchTask.isWanted task = true ∨
        action.task? = some task ∧ isLast ⟨watch, action⟩ = true := by
    by_cases own : other = task
    · exact .inr ⟨own ▸ turn, last⟩
    · left
      rwa [conclude, taskIs_leave_of_ne own, taskIs_say]
  have effect := effect_of_step hs
  cases action with
  | listeners =>
    obtain ⟨next, -, rfl, -⟩ := effect
    exact .inl wanted
  | carryOut runtime =>
    obtain ⟨call, due, rfl⟩ := effect
    cases call with
    | stop => exact .inr (.inr ⟨runtime, rfl, due⟩)
    | start =>
      left
      cases runtime with
      | true =>
        change watch.spawn.taskIs WatchTask.isWanted task = true
        obtain ⟨found, there, is⟩ := taskIs_iff.1 wanted
        have inside := (List.getElem?_eq_some_iff.1 there).1
        rw [h.spawn_eq due]
        exact taskIs_iff.2 ⟨found, (List.getElem?_append_left inside).trans there, is⟩
      | false =>
        change (watch.say _).taskIs WatchTask.isWanted task = true
        rwa [taskIs_say]
  | poll | pending | opened =>
    obtain ⟨-, rfl⟩ := effect
    exact .inl (taskIs_modifyTask wanted fun found _ => by cases found <;> exact id)
  | drop other =>
    obtain ⟨droppable, rfl⟩ := effect
    left
    have different : other ≠ task := by
      rintro rfl
      obtain ⟨found, there, is⟩ := taskIs_iff.1 wanted
      rw [taskIs, there] at droppable
      cases found <;> simp_all [WatchTask.isWanted, WatchTask.isDroppable]
    rwa [taskIs_leave_of_ne different]
  | refused other error =>
    obtain ⟨-, rfl⟩ := effect
    exact (concluded _ rfl rfl).imp_right .inl
  | feedEnds other =>
    obtain ⟨-, rfl⟩ := effect
    exact (concluded _ rfl rfl).imp_right .inl
  | item other item =>
    obtain ⟨-, rfl⟩ := effect
    cases item with
    | ok header =>
      rw [HeightWatch.read]
      split
      · left
        rwa [taskIs_say]
      · next refused =>
        by_cases own : other = task
        · exact .inr (.inl ⟨congrArg some own, by simp [isLast, refused]⟩)
        · left
          rwa [taskIs_leave_of_ne own]
    | error e =>
      rw [HeightWatch.read]
      split
      · next closed => exact (concluded _ rfl (by simp [isLast, closed])).imp_right .inl
      · exact .inl wanted

/-- The producer comes to hold a task only when that is spawned, and lets go of it at a stop. -/
theorem held_step (h : watch.Coherent) (hs : watch.step action = some after)
    (held : after.held = some task) :
    after.taskIs WatchTask.isWanted task = true ∨ watch.held = some task ∧
      ∀ runtime, action = .carryOut runtime → watch.due ≠ some .stop := by
  have effect := effect_of_step hs
  cases action with
  | carryOut runtime =>
    obtain ⟨call, due, rfl⟩ := effect
    cases call with
    | stop =>
      have free : watch.abortHeld.held = some task := held
      rw [held_abortHeld] at free
      cases free
    | start =>
      cases runtime with
      | true =>
        left
        change watch.spawn.taskIs WatchTask.isWanted task = true
        have spawned : watch.spawn.held = some task := held
        rw [h.spawn_eq due] at spawned ⊢
        cases spawned
        exact taskIs_iff.2 ⟨_, List.getElem?_concat_length, rfl⟩
      | false =>
        have same : (watch.say _).held = some task := held
        rw [held_say] at same
        exact .inr ⟨same, fun _ _ stop => by simp [due] at stop⟩
  | listeners =>
    obtain ⟨next, -, rfl, -⟩ := effect
    exact .inr ⟨held, fun _ carries => by cases carries⟩
  | poll | pending | drop | opened =>
    obtain ⟨-, rfl⟩ := effect
    exact .inr ⟨held, fun _ carries => by cases carries⟩
  | refused | feedEnds =>
    obtain ⟨-, rfl⟩ := effect
    exact .inr ⟨(held_say _ watch).symm.trans held, fun _ carries => by cases carries⟩
  | item other item =>
    obtain ⟨-, rfl⟩ := effect
    exact .inr ⟨(held_read other item watch).symm.trans held, fun _ carries => by cases carries⟩

theorem coherent_run (h : watch.Coherent) (run : History step watch past after) : after.Coherent :=
  run.invariant h coherent_step

/-- The task that is held is wanted, unless it has had its last turn. -/
theorem lasts_run {height : UInt64} (run : History step (ofHeight height) past watch)
    (held : watch.held = some task) : watch.taskIs WatchTask.isWanted task = true ∨
      ∃ m ∈ past, m.action.task? = some task ∧ isLast m = true := by
  induction run with
  | start => cases held
  | @next past s t action before hs ih =>
    have coherent := coherent_run (coherent_ofHeight height) before
    obtain spawned | ⟨held, unstopped⟩ := held_step coherent hs held
    · exact .inl spawned
    obtain wanted | ⟨m, mem, last⟩ := ih held
    · obtain still | last | ⟨runtime, stops, due⟩ := isWanted_step coherent hs wanted
      · exact .inl still
      · exact .inr ⟨⟨s, action⟩, by simp, last⟩
      · exact absurd due (unstopped runtime stops)
    · exact .inr ⟨m, List.mem_append_left _ mem, last⟩

end Turns

end HeightWatch

end Tendermint
