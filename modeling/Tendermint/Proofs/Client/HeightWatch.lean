import Tendermint.Proofs.Answer.Node
import Tendermint.Proofs.Broadcaster.Delivery
import Tendermint.Proofs.Client.WatchTurns

/-!
# Tendermint.Proofs.Client.HeightWatch

What a height watch shows of the chain, over every run in which only its tasks publish. A run of the
watch is one of its broadcaster, in which the updates are the heights of the headers that the tasks
read; so what holds of every broadcaster holds of the watch. A stop does not end what its task is
in the middle of: in the poll that is under way an aborted task may publish, or end the watch.

* `HeightWatch.heightsRead`, `HeightWatch.endingOf`: the height that is published at a moment, and
  the end.
* `HeightWatch.Heard`, `HeightWatch.heard_run`: a run of the watch as a run of its broadcaster.
* `HeightWatch.FollowsFeed`, `watch_follows_the_feed`.
* `aborted_task_reads_on`: a header that is published after the stop.
-/

namespace Tendermint

namespace HeightWatch

/-- Somebody else than a task publishes a value or ends the watch. -/
def Action.isForeign : Action → Bool
  | .listeners (.publish _) | .listeners (.finish _) => true
  | _ => false

/-- The height that is published at a moment: that of a header that a task reads before the watch
has ended. -/
def heightsRead (m : Moment HeightWatch Action) : List UInt64 :=
  match m.action with
  | .item _ (.ok header) => if m.before.broadcaster.accepts then [header.height] else []
  | _ => []

/-- What a listener reads at a moment. -/
def readBy (listener : Nat) (m : Moment HeightWatch Action) : List UInt64 :=
  match m.action with
  | .listeners action => Broadcaster.readBy listener ⟨m.before.broadcaster, action⟩
  | _ => []

/-- How an action ends the watch, if it does. -/
def endingBy (watch : HeightWatch) : Action → Option (Ending ClientError)
  | .carryOut runtime =>
    if watch.due = some .start ∧ runtime = false then some (.failed (.config .noRuntime)) else none
  | .refused _ error => some (.failed error)
  | .item _ (.error e) => if e = .rpc .transportClosed then some (.failed e) else none
  | .feedEnds _ => some .completed
  | _ => none

/-- How a moment ends the watch, if it does. An abandoned broadcaster is not ended any more. -/
def endingOf (m : Moment HeightWatch Action) : Option (Ending ClientError) :=
  if m.before.broadcaster.isAbandoned then none else m.before.endingBy m.action

/-! ## The run of the broadcaster -/

/-- A run of the watch as a run of its broadcaster: the updates are the heights that are read, the
listeners read and leave as they do, and the first end counts. -/
structure Heard (first last : HeightWatch) (past : List (Moment HeightWatch Action))
    (inner : List (Moment (Broadcaster UInt64 ClientError)
      (Broadcaster.Action UInt64 ClientError))) : Prop where
  run : History Broadcaster.step first.broadcaster inner last.broadcaster
  accepted : inner.flatMap Broadcaster.accepted = past.flatMap heightsRead
  read : ∀ id, inner.flatMap (Broadcaster.readBy id) = past.flatMap (readBy id)
  stays : ∀ id, (∀ m ∈ past, m.action ≠ .listeners (.leave id)) →
    ∀ m ∈ inner, m.action ≠ .leave id
  ending : last.broadcaster.ending = first.broadcaster.ending.or (past.filterMap endingOf).head?

section Heard

variable {first watch after : HeightWatch} {past : List (Moment HeightWatch Action)}
  {inner : List (Moment (Broadcaster UInt64 ClientError) (Broadcaster.Action UInt64 ClientError))}
  {action : Action}

theorem Heard.append {next : HeightWatch} {later : List (Moment HeightWatch Action)}
    {more : List (Moment (Broadcaster UInt64 ClientError) (Broadcaster.Action UInt64 ClientError))}
    (h : Heard first watch past inner) (k : Heard watch next later more) :
    Heard first next (past ++ later) (inner ++ more) where
  run := h.run.append k.run
  accepted := by simp only [List.flatMap_append, h.accepted, k.accepted]
  read id := by simp only [List.flatMap_append, h.read, k.read]
  stays id stays m mem := by
    obtain before | here := List.mem_append.1 mem
    · exact h.stays id (fun m mem => stays m (List.mem_append_left _ mem)) m before
    · exact k.stays id (fun m mem => stays m (List.mem_append_right _ mem)) m here
  ending := by
    rw [k.ending, h.ending, List.filterMap_append, List.head?_append, Option.or_assoc]

theorem endingOf_eq_none (unending : watch.endingBy action = none) :
    endingOf ⟨watch, action⟩ = none := by
  rw [endingOf]
  split
  · rfl
  · exact unending

/-- A moment that neither publishes nor ends the watch. -/
theorem Heard.silent (same : after.broadcaster = watch.broadcaster)
    (nothing : heightsRead ⟨watch, action⟩ = []) (unread : ∀ id, readBy id ⟨watch, action⟩ = [])
    (unended : endingOf ⟨watch, action⟩ = none) : Heard watch after [⟨watch, action⟩] [] where
  run := same ▸ .start
  accepted := by simp [nothing]
  read id := by simp [unread]
  stays id _ m mem := by cases mem
  ending := by simp [same, unended]

/-- A moment at which the watch ends, unless it had ended before or the broadcaster is abandoned. -/
theorem Heard.finish {ending : Ending ClientError}
    (said : after.broadcaster = (watch.say (.finish ending)).broadcaster)
    (ends : watch.endingBy action = some ending) (nothing : heightsRead ⟨watch, action⟩ = [])
    (unread : ∀ id, readBy id ⟨watch, action⟩ = []) :
    ∃ inner, Heard watch after [⟨watch, action⟩] inner := by
  cases reached : watch.broadcaster.isAbandoned with
  | true =>
    have refused : watch.broadcaster.step (.finish ending) = none := by
      simp [Broadcaster.step, Broadcaster.act, reached]
    rw [say, refused] at said
    exact ⟨[], .silent said nothing unread (by simp [endingOf, reached])⟩
  | false =>
    have stepped := Broadcaster.step_finish reached ending
    rw [say, stepped] at said
    refine ⟨[⟨watch.broadcaster, .finish ending⟩], ?_, ?_, fun id => ?_, fun id _ m mem => ?_, ?_⟩
    · rw [said]
      exact .single stepped
    · simp [Broadcaster.accepted, nothing]
    · simp [Broadcaster.readBy, unread]
    · rw [List.mem_singleton.1 mem]
      rintro ⟨⟩
    · have here : endingOf ⟨watch, action⟩ = some ending := by simp [endingOf, reached, ends]
      rw [said, Broadcaster.finish_ending]
      simp [here]

theorem Heard.listeners {action : Broadcaster.Action UInt64 ClientError}
    {next : Broadcaster UInt64 ClientError} (own : (Action.listeners action).isForeign = false)
    (stepped : watch.broadcaster.step action = some next) :
    Heard watch { watch with broadcaster := next } [⟨watch, .listeners action⟩]
      [⟨watch.broadcaster, action⟩] where
  run := .single stepped
  accepted := by
    cases action with
    | publish a => cases own
    | _ => rfl
  read id := rfl
  stays id stays m mem := by
    rw [List.mem_singleton.1 mem]
    rintro rfl
    exact stays _ (List.mem_singleton_self _) rfl
  ending := by
    have same : next.ending = watch.broadcaster.ending :=
      Broadcaster.ending_of_step stepped fun ending finishes => by
        rw [finishes] at own
        cases own
    have unended : endingOf ⟨watch, .listeners action⟩ = none := endingOf_eq_none rfl
    simp [same, unended]

theorem Heard.publish {task : Nat} {header : Header} (taken : watch.broadcaster.accepts = true) :
    Heard watch (watch.say (.publish header.height)) [⟨watch, .item task (.ok header)⟩]
      [⟨watch.broadcaster, .publish header.height⟩] := by
  have reached : watch.broadcaster.isAbandoned = false := by
    rw [Broadcaster.accepts, Bool.and_eq_true_iff] at taken
    simpa using taken.2
  have stepped := Broadcaster.step_publish reached header.height
  rw [say, stepped]
  refine ⟨.single stepped, ?_, fun id => rfl, fun id _ m mem => ?_, ?_⟩
  · simp [Broadcaster.accepted, heightsRead, taken]
  · rw [List.mem_singleton.1 mem]
    rintro ⟨⟩
  · have unended : endingOf ⟨watch, .item task (.ok header)⟩ = none := endingOf_eq_none rfl
    rw [Broadcaster.publish_eq]
    simp [unended]

theorem heard_read {task : Nat} (item : Except ClientError Header) :
    ∃ inner, Heard watch (watch.read task item) [⟨watch, .item task item⟩] inner := by
  cases item with
  | ok header =>
    rw [HeightWatch.read]
    split
    · next taken => exact ⟨_, .publish taken⟩
    · next refused =>
      exact ⟨[], .silent rfl (by simp [heightsRead, refused]) (fun _ => rfl) (endingOf_eq_none rfl)⟩
  | error e =>
    rw [HeightWatch.read]
    split
    · next closed => exact Heard.finish rfl (by simp [endingBy, closed]) rfl fun _ => rfl
    · next other =>
      have unending : watch.endingBy (.item task (.error e)) = none := if_neg other
      exact ⟨[], .silent rfl rfl (fun _ => rfl) (endingOf_eq_none unending)⟩

theorem heard_carryOut {runtime : Bool} {call : ProducerCall} (due : watch.due = some call) :
    ∃ inner, Heard watch { watch.obey runtime call with carriedOut := watch.carriedOut + 1 }
      [⟨watch, .carryOut runtime⟩] inner := by
  cases call with
  | stop =>
    have unending : watch.endingBy (.carryOut runtime) = none := by simp [endingBy, due]
    exact ⟨[], .silent (broadcaster_abortHeld watch) rfl (fun _ => rfl) (endingOf_eq_none unending)⟩
  | start =>
    cases runtime with
    | true =>
      have unending : watch.endingBy (.carryOut true) = none := by simp [endingBy]
      exact ⟨[], .silent (broadcaster_abortHeld watch) rfl (fun _ => rfl)
        (endingOf_eq_none unending)⟩
    | false => exact Heard.finish rfl (by simp [endingBy, due]) rfl fun _ => rfl

theorem heard_step (own : action.isForeign = false) (hs : watch.step action = some after) :
    ∃ inner, Heard watch after [⟨watch, action⟩] inner := by
  have effect := effect_of_step hs
  cases action with
  | listeners action =>
    obtain ⟨next, stepped, rfl, -⟩ := effect
    exact ⟨_, .listeners own stepped⟩
  | carryOut runtime =>
    obtain ⟨call, due, rfl⟩ := effect
    exact heard_carryOut due
  | poll | pending | drop | opened =>
    obtain ⟨-, rfl⟩ := effect
    exact ⟨[], .silent rfl rfl (fun _ => rfl) (endingOf_eq_none rfl)⟩
  | refused task error =>
    obtain ⟨-, rfl⟩ := effect
    exact Heard.finish rfl rfl rfl fun _ => rfl
  | item task item =>
    obtain ⟨-, rfl⟩ := effect
    exact heard_read item
  | feedEnds task =>
    obtain ⟨-, rfl⟩ := effect
    exact Heard.finish rfl rfl rfl fun _ => rfl

/-- A run of the watch is a run of its broadcaster. -/
theorem heard_run (run : History step first past watch)
    (own : ∀ m ∈ past, m.action.isForeign = false) : ∃ inner, Heard first watch past inner := by
  induction run with
  | start => exact ⟨[], .start, rfl, fun _ => rfl, fun _ _ _ mem => (by cases mem), by simp⟩
  | @next past s t action _ hs ih =>
    obtain ⟨inner, before⟩ := ih fun m mem => own m (List.mem_append_left _ mem)
    have ownLast : action.isForeign = false := own ⟨s, action⟩ (by simp)
    obtain ⟨more, last⟩ := heard_step ownLast hs
    exact ⟨_, before.append last⟩

/-- Nothing is published after the end. -/
theorem unread_of_isEnded (run : History step first past watch)
    (own : ∀ m ∈ past, m.action.isForeign = false) (ended : first.broadcaster.isEnded = true) :
    past.flatMap heightsRead = [] := by
  rw [List.flatMap_eq_nil_iff]
  intro m mem
  obtain ⟨earlier, later, rfl⟩ := List.append_of_mem mem
  obtain ⟨-, before, -, -⟩ := run.split_at
  obtain ⟨inner, heard⟩ := heard_run before fun k mem => own k (List.mem_append_left _ mem)
  have still : m.before.broadcaster.accepts = false := by
    obtain ⟨ending, same⟩ := Option.isSome_iff_exists.1 ended
    simp [Broadcaster.accepts, Broadcaster.isEnded, heard.ending, same]
  rw [heightsRead]
  split
  · simp [still]
  · rfl

/-- A new listener starts with the value of the moment. -/
theorem follows_subscribes (numbered : watch.broadcaster.Numbered)
    (hs : watch.step (.listeners .subscribe) = some after) :
    Broadcaster.Follows watch.broadcaster.nextId [] [watch.broadcaster.value]
      after.broadcaster := by
  obtain ⟨next, stepped, rfl, -⟩ := effect_of_step hs
  obtain ⟨d, possible, rfl⟩ := Broadcaster.step_eq_some.1 stepped
  obtain ⟨-, -, rfl⟩ := Broadcaster.effect_of_act possible
  have new := Broadcaster.follows_subscribe watch.broadcaster (numbered _ (Nat.le_refl _))
  exact new.of_eq (by rw [Broadcaster.collect_eq]) (by rw [Broadcaster.collect_eq])

end Heard

/-! ## What a watch shows -/

/-- What a watch that started at some height shows after all that happened. -/
structure FollowsFeed (height : UInt64) (past : List (Moment HeightWatch Action))
    (watch : HeightWatch) : Prop where
  /-- The updates of the broadcaster are the heights of the headers that were read before the end,
  in the order in which they were read. -/
  updates : ∃ inner, History Broadcaster.step (.ofValue true height) inner watch.broadcaster ∧
    inner.flatMap Broadcaster.accepted = past.flatMap heightsRead
  /-- The value is the last of these heights. -/
  value : watch.broadcaster.value = (past.flatMap heightsRead).getLast?.getD height
  /-- The stream of a listener brings the value of the moment at which it subscribed, then the
  height of every header that was read since, in order. When the watch has ended it ends too. -/
  streams : ∀ earlier m later, past = earlier ++ m :: later → m.action = .listeners .subscribe →
    (∀ k ∈ later, k.action ≠ .listeners (.leave m.before.broadcaster.nextId)) →
    ∃ stream, watch.broadcaster.listener? m.before.broadcaster.nextId = some stream ∧
      later.flatMap (readBy m.before.broadcaster.nextId) ++ stream.unread =
        m.before.broadcaster.value :: later.flatMap heightsRead ∧
      (stream.unread = [] → stream.poll = if watch.broadcaster.isEnded then .ended else .pending)
  /-- A malformed event is skipped. -/
  skips : ∀ task e, watch.taskIs (WatchTask.isAt .following) task = true →
    e ≠ .rpc .transportClosed → watch.step (.item task (.error e)) = some watch
  /-- The first refused subscription, `TransportClosed` or end of a feed ends the watch, or the
  first start outside of a runtime. -/
  ending : watch.broadcaster.ending = (past.filterMap endingOf).head?
  /-- After that no header is published. -/
  final : ∀ earlier m later, past = earlier ++ m :: later → (endingOf m).isSome = true →
    later.flatMap heightsRead = []
  /-- A task that has ended the watch, or found it at its end, has no more turns. -/
  retires : ∀ earlier m later task, past = earlier ++ m :: later → m.action.task? = some task →
    isLast m = true → ∀ k ∈ later, k.action.task? ≠ some task
  /-- Once a stop is carried out, a task that was spawned before has turns only in a poll that was
  under way then, up to the end of that poll. -/
  stops : ∀ earlier m later runtime after, past = earlier ++ m :: later →
    m.action = .carryOut runtime → m.before.due = some .stop →
    m.before.step m.action = some after →
    ∀ between k rest task, later = between ++ k :: rest → k.action.task? = some task →
      task < after.tasks.length →
      m.before.taskIs WatchTask.isPolled task = true ∧ ∀ j ∈ between, j.action ≠ .pending task
  /-- At most one task that was not aborted is live, the one that the producer holds. -/
  single : ∀ task, watch.taskIs WatchTask.isWanted task = true → watch.held = some task
  /-- It stays live until its last turn or a stop. -/
  lasts : ∀ task, watch.held = some task → watch.taskIs WatchTask.isWanted task = true ∨
    ∃ m ∈ past, m.action.task? = some task ∧ isLast m = true
  /-- There is none when the producer has carried out its calls, the last of them a stop. -/
  idle : watch.broadcaster.active = false → watch.due = none → watch.held = none
  /-- A start inside of a runtime spawns one task, and nothing else does. -/
  spawned : watch.tasks.length = past.countP spawns
  /-- The producer carries out its calls one at a time. -/
  inTurn : watch.carriedOut ≤ watch.broadcaster.calls.length ∧
    watch.broadcaster.calls.length ≤ watch.carriedOut + 1

section Feed

variable {height : UInt64} {watch : HeightWatch} {past : List (Moment HeightWatch Action)}

theorem followsFeed_run (run : History step (ofHeight height) past watch)
    (own : ∀ m ∈ past, m.action.isForeign = false) : FollowsFeed height past watch := by
  have coherent := coherent_run (coherent_ofHeight height) run
  obtain ⟨inner, heard⟩ := heard_run run own
  -- A moment of the run, with what is known of the watch before it and after it.
  have moment (earlier later : List (Moment HeightWatch Action)) (m : Moment HeightWatch Action)
      (parts : past = earlier ++ m :: later) :
      ∃ after inner, Heard (ofHeight height) m.before earlier inner ∧ m.before.Coherent ∧
        m.before.step m.action = some after ∧ History step after later watch ∧
        ∀ k ∈ later, k.action.isForeign = false := by
    subst parts
    obtain ⟨after, before, stepped, rest⟩ := run.split_at
    obtain ⟨inner, heard⟩ := heard_run before fun k mem => own k (List.mem_append_left _ mem)
    exact ⟨after, inner, heard, coherent_run (coherent_ofHeight height) before, stepped, rest,
      fun k mem => own k (List.mem_append_right _ (List.mem_cons_of_mem _ mem))⟩
  constructor
  case updates => exact ⟨inner, heard.run, heard.accepted⟩
  case value =>
    rw [← heard.accepted]
    exact Broadcaster.value_run heard.run
  case streams =>
    intro earlier m later parts subscribes stays
    obtain ⟨after, inner, before, -, stepped, rest, own⟩ := moment _ _ _ parts
    rw [subscribes] at stepped
    have new := follows_subscribes (Broadcaster.numbered_run before.run) stepped
    obtain ⟨more, heard⟩ := heard_run rest own
    obtain ⟨stream, listens, attached, sent⟩ :=
      Broadcaster.follows_run new heard.run (heard.stays _ stays)
    rw [heard.read, heard.accepted] at sent
    refine ⟨stream, listens, sent, fun drained => ?_⟩
    rw [Listener.poll, drained, attached]
    cases watch.broadcaster.isEnded <;> rfl
  case skips =>
    intro task e following bad
    rw [step, if_pos following, read, if_neg bad]
  case ending =>
    rw [heard.ending]
    rfl
  case final =>
    intro earlier m later parts ends
    obtain ⟨after, inner, -, -, stepped, rest, ownRest⟩ := moment _ _ _ parts
    refine unread_of_isEnded rest ownRest ?_
    obtain ⟨more, here⟩ := heard_step (own m (by simp [parts])) stepped
    obtain ⟨ending, same⟩ := Option.isSome_iff_exists.1 ends
    rw [Broadcaster.isEnded, here.ending]
    cases m.before.broadcaster.ending <;> simp [same]
  case retires =>
    intro earlier m later task parts turn last
    obtain ⟨after, inner, -, -, stepped, rest, -⟩ := moment _ _ _ parts
    exact spent_run rest (isSpent_of_isLast stepped turn last)
  case stops =>
    intro earlier m later runtime after parts stops due stepped between k others task cut turn
      spawned
    obtain ⟨same, inner, -, before, again, rest, -⟩ := moment _ _ _ parts
    obtain rfl : same = after := Option.some.inj (again.symm.trans stepped)
    rw [stops] at stepped
    obtain ⟨unwanted, polledBefore⟩ := unwanted_of_stop before due stepped spawned
    constructor
    · by_contra unpolled
      have idle : same.taskIs WatchTask.isPolled task = false :=
        Bool.eq_false_iff.2 fun polled => unpolled (polledBefore polled)
      exact spent_run rest (isSpent_of_unwanted unwanted idle) k (by simp [cut]) turn
    · -- From the end of that poll on the task is spent.
      intro j mem ends
      obtain ⟨first, second, rfl⟩ := List.append_of_mem mem
      rw [cut, List.append_assoc, List.cons_append] at rest
      obtain ⟨next, upTo, hs, onward⟩ := rest.split_at
      rw [ends] at hs
      have marked := taskIs_run WatchTask.kept_unwanted upTo unwanted
      exact spent_run onward (isSpent_of_pending hs marked) k (by simp) turn
  case single => exact coherent.wanted
  case lasts => exact fun task held => lasts_run run held
  case idle => exact coherent.idle
  case spawned =>
    rw [length_run run]
    exact Nat.zero_add _
  case inTurn => exact ⟨coherent.carriedOut, coherent.inTurn⟩

end Feed

theorem history_of_run {actions : List Action} {first last : HeightWatch}
    (ran : first.run actions = some last) : History step first (moments step actions first) last :=
  .of_run (fun _ => rfl) (fun _ _ _ => rfl) ran

end HeightWatch

/-! ## The watch of a client -/

theorem Call.run_map {α β σ : Type} (f : α → β) (call : Call α)
    (execute : Method → Params → σ → Except RpcError Json × σ) (s : σ) :
    ((call.map f).run execute s).1 = (call.run execute s).1.map f := by
  induction call generalizing s with
  | done => rfl
  | call method params next ih => exact ih _ _

/-- A height watch starts at the height that the node reports, and then follows the feed of headers,
over every run in which nobody else publishes a height or ends the watch. -/
theorem watch_follows_the_feed {σ : Type} (client : Client)
    (execute : Method → Params → σ → Except RpcError Json × σ) (s : σ)
    {first watch : HeightWatch} {past : List (Moment HeightWatch HeightWatch.Action)}
    (opened : ((client.watchHeight true).run execute s).1 = .ok first)
    (run : History HeightWatch.step first past watch)
    (own : ∀ m ∈ past, m.action.isForeign = false) :
    ∃ status, (client.status.run execute s).1 = .ok status ∧
      HeightWatch.FollowsFeed status.sync.latestBlockHeight past watch := by
  rw [Client.watchHeight, Call.run_map] at opened
  rw [Client.heightSeed, if_pos rfl, Call.run_map] at opened
  cases answered : (client.status.run execute s).1 with
  | error e =>
    rw [answered] at opened
    cases opened
  | ok status =>
    rw [answered] at opened
    cases opened
    exact ⟨status, rfl, HeightWatch.followsFeed_run run own⟩

section Sample

/-- The header of a block at some height. -/
def Header.atHeight (height : UInt64) : Header := { Header.sample with height := height }

/-- A listener sees two headers and a malformed event between them. After it has left a second one
comes, sees one header, and the connection is lost. -/
def HeightWatch.twoFeeds : List Action :=
  [.listeners .subscribe, .carryOut true, .listeners .started, .poll 0, .opened 0,
    .item 0 (.ok (.atHeight 8)), .item 0 (.error (.decode (.missingField "height"))),
    .item 0 (.ok (.atHeight 9)), .pending 0, .listeners (.leave 0), .listeners (.stop 0),
    .carryOut true, .listeners .stopped, .drop 0, .listeners .subscribe, .carryOut true,
    .listeners .started, .poll 1, .opened 1, .item 1 (.ok (.atHeight 10)),
    .item 1 (.error (.rpc .transportClosed))]

/-- Two tasks, one after the other, at a node that is at height seven. -/
theorem watch_follows_two_feeds :
    ∃ watch, (HeightWatch.ofHeight 7).run HeightWatch.twoFeeds = some watch ∧
      watch.broadcaster.value = 10 ∧
      watch.broadcaster.ending = some (.failed (.rpc .transportClosed)) ∧
      HeightWatch.FollowsFeed 7 (moments HeightWatch.step HeightWatch.twoFeeds (.ofHeight 7))
        watch := by
  have ran : (HeightWatch.ofHeight 7).run HeightWatch.twoFeeds =
      some ⟨⟨10, [⟨1, [9, 10], false⟩], 2, true, 2, some (.failed (.rpc .transportClosed)), true,
        .none, [], 1, [.start, .stop, .start]⟩, 3, [.gone, .gone], some 1⟩ := by decide
  have read : (Status.schema Version.v0_20.dialect).read Status.sampleJson = .ok .sample :=
    Status.Written.decode "result" (List.pairwise_pair.2 (by decide)) rfl rfl rfl
      ⟨_, ⟨_, by decide, rfl⟩, rfl⟩
  have answered : ((Client.status ⟨.v0_20⟩).run (fun _ _ s => (.ok Status.sampleJson, s)) ()).1 =
      .ok .sample := congrArg (Except.mapError ClientError.decode) read
  have opened : ((Client.watchHeight ⟨.v0_20⟩ true).run
      (fun _ _ s => (.ok Status.sampleJson, s)) ()).1 = .ok (.ofHeight 7) := by
    rw [Client.watchHeight, Call.run_map, Client.heightSeed, if_pos rfl, Call.run_map, answered]
    rfl
  obtain ⟨status, same, follows⟩ :=
    watch_follows_the_feed ⟨.v0_20⟩ _ () opened (HeightWatch.history_of_run ran) (by decide)
  obtain rfl : Status.sample = status := Except.ok.inj (answered.symm.trans same)
  exact ⟨_, ran, rfl, rfl, follows⟩

/-- The producer's stop aborts a task while a poll of it is under way. -/
def HeightWatch.stoppedInPoll : List Action :=
  [.listeners .subscribe, .carryOut true, .listeners .started, .poll 0, .opened 0,
    .item 0 (.ok (.atHeight 8)), .listeners (.leave 0), .listeners (.stop 0), .carryOut true,
    .listeners .stopped]

/-- That poll reads on, and the next listener makes for a task beside it. -/
def HeightWatch.besideAborted : List Action :=
  [.item 0 (.ok (.atHeight 9)), .listeners .subscribe, .carryOut true, .listeners .started, .poll 1]

/-- A header is published after the stop, two tasks are live at once, and the one that was aborted
ends the watch of the other. -/
theorem aborted_task_reads_on :
    ∃ stopped beside ended, (HeightWatch.ofHeight 7).run HeightWatch.stoppedInPoll = some stopped ∧
      stopped.broadcaster.active = false ∧ stopped.due = none ∧ stopped.held = none ∧
      stopped.broadcaster.value = 8 ∧
      stopped.run HeightWatch.besideAborted = some beside ∧ beside.broadcaster.value = 9 ∧
      beside.tasks = [.live .following true true, .live .opening true false] ∧
      beside.step (.item 0 (.error (.rpc .transportClosed))) = some ended ∧
      ended.broadcaster.ending = some (.failed (.rpc .transportClosed)) ∧
      ended.tasks = [.gone, .live .opening true false] := by
  refine ⟨⟨⟨8, [], 1, false, 1, none, true, .none, [], 1, [.start, .stop]⟩, 2,
      [.live .following true true], none⟩,
    ⟨⟨9, [⟨1, [9], true⟩], 2, true, 2, none, true, .none, [], 1, [.start, .stop, .start]⟩, 3,
      [.live .following true true, .live .opening true false], some 1⟩,
    ⟨⟨9, [⟨1, [9], false⟩], 2, true, 2, some (.failed (.rpc .transportClosed)), true, .none, [], 1,
      [.start, .stop, .start]⟩, 3, [.gone, .live .opening true false], some 1⟩, ?_⟩
  decide

end Sample

end Tendermint
