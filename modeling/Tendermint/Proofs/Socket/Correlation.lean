import Tendermint.Proofs.Socket.Lives
import Tendermint.Proofs.Wire.Reply

/-!
# Tendermint.Proofs.Socket.Correlation

Why a request on a shared connection has the outcome that it has. Every outcome is that of a frame
under the identifier of the request, the `timeout` of its own timer, the `webSocket` fault of its
own sending, `transportClosed` after the end of the task, or `notConnected`.

* `Cause`: the causes of an outcome.
* `Told`, `told_step`: whatever fills the place of an answer, and every outcome, has a cause.
* `requests_are_correlated`: every request, over every run.
-/

namespace Tendermint

/-- Why a caller has an outcome, after the moments of a run. -/
inductive Cause (past : List (Moment Socket Socket.Action)) (number : Nat) (l : Life) :
    Except RpcError Success → Prop
  /-- One frame, and no other, came in under its identifier while its request waited. -/
  | answered {json : Json} {outcome : Except RpcError Success}
      (frames : past.flatMap (Socket.framesFor l.caller.request.id) = [json])
      (content : Reply.outcomeOf (Reply.ofJson json) = outcome) : Cause past number l outcome
  /-- Its own timer ran out. -/
  | expired {m : Moment Socket Socket.Action} {caller : Caller} {since : Duration}
      (happened : m ∈ past) (action : m.action = .expire number)
      (found : m.before.callers[number]? = some caller) (stage : caller.stage = .waiting since)
      (due : since.nanoseconds + m.before.timeout.nanoseconds ≤ m.before.now.nanoseconds) :
      Cause past number l (.error (.timeout m.before.timeout))
  /-- The socket could not be written to when its own request was due. -/
  | unsent {m : Moment Socket Socket.Action} {fault : NetworkFault} (happened : m ∈ past)
      (action : m.action = .handleNext (some fault))
      (head : m.before.queue.head? = some (Socket.commandFor number l.caller.asked)) :
      Cause past number l (.error (.webSocket fault))
  /-- The task has come to its end. -/
  | closed (atEnd : l.phase = .finished) : Cause past number l (.error .transportClosed)
  /-- Its command was never put into the queue, and nothing was written for it. -/
  | refused (unwritten : l.written = false) : Cause past number l (.error .notConnected)

namespace Life

variable {past : List (Moment Socket Socket.Action)} {m : Moment Socket Socket.Action}
  {number : Nat} {l l' : Life} {share : Share} {outcome : Except RpcError Success}

/-- A cause stays one, whatever comes after it. -/
theorem cause_later (cause : Cause past number l outcome)
    (frames : Socket.framesFor l.caller.request.id m = [] ∨
      past.flatMap (Socket.framesFor l.caller.request.id) = [])
    (asked : l'.caller.asked = l.caller.asked)
    (phase : l.phase = .finished → l'.phase = .finished)
    (written : outcome = .error .notConnected → l.written = false → l'.written = false) :
    Cause (past ++ [m]) number l' outcome := by
  have request : l'.caller.request = l.caller.request := congrArg Prod.fst asked
  cases cause with
  | answered one content =>
    obtain none_now | none_yet := frames
    · refine .answered ?_ content
      rw [request, List.flatMap_append, one, List.flatMap_singleton, none_now, List.append_nil]
    · rw [none_yet] at one
      cases one
  | expired happened action found stage due =>
    exact .expired (List.mem_append_left _ happened) action found stage due
  | unsent happened action head =>
    exact .unsent (List.mem_append_left _ happened) action (asked ▸ head)
  | closed atEnd => exact .closed (phase atEnd)
  | refused unwritten => exact .refused (written rfl unwritten)

/-- Whatever fills the place of an answer has a cause, and so has every outcome. -/
structure Told (past : List (Moment Socket Socket.Action)) (number : Nat) (l : Life) : Prop where
  /-- No frame counts before the request waits in the table. -/
  silent : l.caller.IsAside ∨ .ask ∈ l.errands ∨ l.pending = true →
    past.flatMap (Socket.framesFor l.caller.request.id) = []
  filled : ∀ outcome, l.caller.answer = .filled outcome → Cause past number l outcome
  resolved : ∀ outcome, l.caller.stage = .resolved outcome → Cause past number l outcome

theorem asked_step (step : l.Step m number share l') : l'.caller.asked = l.caller.asked := by
  obtain ⟨request, listens⟩ := request_step step
  rw [Caller.asked, request, listens]
  rfl

/-- A frame counts only while the request waits. -/
theorem frames_step (step : l.Step m number share l') : share.frames = [] ∨ l.pending = true := by
  cases step with
  | answered _ waits => exact .inr waits
  | rejected _ waits => exact .inr waits
  | _ => exact .inl rfl

/-- A request that can still be answered could be answered before, and no frame counted yet. -/
theorem open_step (sound : l.Sound) (step : l.Step m number share l')
    (later : l'.caller.IsAside ∨ .ask ∈ l'.errands ∨ l'.pending = true) :
    share.frames = [] ∧ (l.caller.IsAside ∨ .ask ∈ l.errands ∨ l.pending = true) := by
  obtain ⟨held, once, untouched, unanswered, waits, parted, holds, route, attached, ended, abandoned,
    genuine⟩ := sound
  cases step with
  | resumed waiting found =>
    have slot := Socket.outcome?_eq_some.1 found
    grind [Share.none]
  | _ => grind [Share.none]

/-- Nothing is written for a caller that has no command in the queue. -/
theorem written_step (step : l.Step m number share l') (idle : l.errands = []) :
    l'.written = l.written := by
  cases step with
  | sent _ next =>
    rw [idle] at next
    cases next
  | _ => rfl

theorem answered_answer (slot : AnswerSlot) (c : Caller) :
    (c.answered slot).answer = c.answer ∨ (c.answered slot).answer = slot := by
  unfold Caller.answered
  split
  · split
    · exact .inr rfl
    · exact .inl rfl
  · exact .inl rfl

/-- What fills the place of an answer filled it before, or its cause is this step. -/
theorem answer_step (step : l.Step m number share l')
    (frames : l.pending = true → (past ++ [m]).flatMap (Socket.framesFor l.caller.request.id) =
      share.frames)
    (filled : l'.caller.answer = .filled outcome) :
    l.caller.answer = .filled outcome ∨ Cause (past ++ [m]) number l' outcome := by
  have asked := asked_step step
  have request : l'.caller.request = l.caller.request := congrArg Prod.fst asked
  cases step with
  | @unsent rest fault phase next action head =>
    obtain same | new := answered_answer (.filled (.error (.webSocket fault))) l.caller
    · exact .inl (same.symm.trans filled)
    · cases new.symm.trans filled
      refine .inr (.unsent (List.mem_append_right _ (List.mem_singleton_self m)) action ?_)
      rw [asked]
      exact head
  | @answered json phase waits name kept =>
    obtain same | new := answered_answer (.filled (Reply.outcomeOf (Reply.ofJson json))) l.caller
    · exact .inl (same.symm.trans filled)
    · cases new.symm.trans filled
      have only := frames waits
      rw [← request] at only
      exact .inr (.answered only rfl)
  | @rejected json error phase waits name listens failed =>
    obtain same | new := answered_answer (.filled (.error error)) (l.caller.detachedIf l.routed)
    · have before : (l.caller.detachedIf l.routed).answer = l.caller.answer := by grind
      exact .inl (before.symm.trans (same.symm.trans filled))
    · cases new.symm.trans filled
      have only := frames waits
      rw [← request] at only
      exact .inr (.answered only failed)
  | finished phase =>
    obtain same | new | lost := closed_answer l.pending l.routed (l.errands.contains .ask) l.caller
    · exact .inl (same.symm.trans filled)
    · cases new.symm.trans filled
      exact .inr (.closed rfl)
    · cases lost.symm.trans filled
  | forgotten | unsubscribed | heard => exact .inl (by grind)
  | _ => exact .inl filled

theorem told_step (sound : l.Sound) (told : Told past number l) (step : l.Step m number share l')
    (shared : Socket.share number l.caller.request.id m = share) : Told (past ++ [m]) number l' := by
  have now : Socket.framesFor l.caller.request.id m = share.frames := congrArg Share.frames shared
  have asked := asked_step step
  have request : l'.caller.request = l.caller.request := congrArg Prod.fst asked
  have frames : (past ++ [m]).flatMap (Socket.framesFor l.caller.request.id) =
      past.flatMap (Socket.framesFor l.caller.request.id) ++ share.frames := by
    rw [List.flatMap_append, List.flatMap_singleton, now]
  have kept : ∀ outcome, Cause past number l outcome →
      (outcome = .error .notConnected → l.errands = []) → Cause (past ++ [m]) number l' outcome := by
    intro outcome cause idle
    refine cause_later cause ?_ asked (finished_step step) ?_
    · obtain none_now | waits := frames_step step
      · exact .inl (now.trans none_now)
      · exact .inr (told.silent (.inr (.inr waits)))
    · exact fun refused unwritten => (written_step step (idle refused)).trans unwritten
  constructor
  · intro later
    obtain ⟨none_now, before⟩ := open_step sound step later
    rw [request, frames, told.silent before, none_now]
    rfl
  · intro outcome filled
    have only : l.pending = true → (past ++ [m]).flatMap (Socket.framesFor l.caller.request.id) =
        share.frames := fun waits => by
      rw [frames, told.silent (.inr (.inr waits)), List.nil_append]
    obtain before | new := answer_step step only filled
    · refine kept outcome (told.filled outcome before) ?_
      rintro rfl
      exact absurd before sound.genuine
    · exact new
  · intro outcome resolved
    have before : l.caller.stage = .resolved outcome → Cause (past ++ [m]) number l' outcome := by
      intro stage
      refine kept outcome (told.resolved outcome stage) ?_
      rintro rfl
      exact sound.held (.inr stage)
    cases step with
    | refused stage phase =>
      cases resolved
      obtain ⟨-, -, unwritten, -⟩ := sound.untouched (.inl (.inl stage))
      exact .refused unwritten
    | @resumed found waits slot =>
      cases resolved
      obtain filled | ⟨lost, rfl⟩ := Socket.outcome?_eq_some.1 slot
      · refine kept outcome (told.filled outcome filled) ?_
        rintro rfl
        exact absurd filled sound.genuine
      · exact .closed (sound.abandoned lost)
    | expired action found stage due =>
      cases resolved
      exact .expired (List.mem_append_right _ (List.mem_singleton_self m)) action found stage due
    | submitted | abandoned => cases resolved
    | finished => exact before ((closed_stage _ _ _ _).symm.trans resolved)
    | _ => exact before (by grind)

/-- An outcome does not change. -/
theorem resolved_step (step : l.Step m number share l') (resolved : l.caller.stage = .resolved outcome) :
    l'.caller.stage = .resolved outcome := by
  cases step with
  | finished => exact (closed_stage _ _ _ _).trans resolved
  | _ => grind

end Life

theorem Lived.told {number : Nat} {past : List (Moment Socket Socket.Action)} {l : Life}
    (lived : Lived number past l) : l.Told past number := by
  induction lived with
  | @born past request listens stage phase stage_eq before =>
    refine ⟨fun _ => ?_, fun outcome filled => ?_, fun outcome resolved => ?_⟩
    · rw [List.flatMap_eq_nil_iff]
      exact fun m hm => congrArg Share.frames (before m hm)
    · cases filled
    · obtain admitted | refused := stage_eq
      · cases admitted.symm.trans resolved
      · cases refused.symm.trans resolved
        exact .refused rfl
  | next lived step shared ih => exact Life.told_step lived.sound ih step shared

namespace Socket

variable {past : List (Moment Socket Action)} {s : Socket}

theorem frameId?_of_framesFor {id : RequestId} {json : Json}
    (h : json ∈ past.flatMap (framesFor id)) : Router.frameId? json = some id := by
  obtain ⟨m, -, hm⟩ := List.mem_flatMap.1 h
  unfold framesFor at hm
  split at hm
  · rename_i name frame comes
    split at hm
    · rename_i counts
      cases List.mem_singleton.1 hm
      rw [← counts.1]
      exact frameId?_of_incoming comes
    · cases hm
  · cases hm

/-- A caller has its outcome. -/
def HasOutcome (s : Socket) (number : Nat) (outcome : Except RpcError Success) : Prop :=
  ∃ caller, s.callers[number]? = some caller ∧ caller.stage = .resolved outcome

/-- Every outcome of a request has one of the five causes, and does not change. A result is under
the identifier of its request; `transportClosed` comes only once the task has finished; and nothing
was written for a request that failed with `notConnected`. A task that has left its loop can finish,
and writes nothing more. After that a caller that waits has an answer to take, and one that comes,
or has not put its command into the queue yet, gets `notConnected`. -/
theorem requests_are_correlated {timeout : Duration} {ids : RequestId.Counter}
    (run : History step (opened timeout ids) past s) (distinct : Distinct past) :
    (∀ number caller outcome, s.callers[number]? = some caller →
      caller.stage = .resolved outcome →
        Cause past number (s.life number caller) outcome ∧
        (∀ answer, outcome = .ok answer → answer.id = caller.request.id) ∧
        (outcome = .error .transportClosed → s.phase = .finished) ∧
        (outcome = .error .notConnected → ∀ request ∈ s.written, request.id ≠ caller.request.id) ∧
        ∀ later t, History step s later t → Distinct (past ++ later) →
          t.HasOutcome number outcome) ∧
    (s.phase = .leaving → ∃ t, s.step .finish = some t ∧ t.phase = .finished) ∧
    (s.phase ≠ .running → ∀ later t, History step s later t →
      t.phase ≠ .running ∧ t.written = s.written) ∧
    (s.phase = .finished →
      (∀ number caller, s.callers[number]? = some caller → caller.awaits = true →
        ∃ t outcome, s.step (.resume number) = some t ∧ t.HasOutcome number outcome) ∧
      (∀ number caller, s.callers[number]? = some caller → caller.stage = .admitted →
        ∃ t, s.step (.submit number) = some t ∧ t.HasOutcome number (.error .notConnected)) ∧
      ∀ action (t : Socket), s.step action = some t →
        ∀ (number : Nat) (caller : Caller), t.callers[number]? = some caller →
          s.callers[number]? = none → caller.stage = .resolved (.error .notConnected)) := by
  obtain ⟨-, -, lives⟩ := lived_run run distinct
  refine ⟨?_, ?_, ?_, ?_⟩
  · intro number caller outcome found resolved
    have told := (lives number caller found).told
    have cause := told.resolved outcome resolved
    refine ⟨cause, ?_, ?_, ?_, ?_⟩
    · rintro answer rfl
      cases cause with
      | answered frames content =>
        have named := frameId?_of_framesFor (frames ▸ List.mem_singleton_self _)
        exact Reply.id_of_outcomeOf named content
    · rintro rfl
      cases cause with
      | answered _ content => exact absurd content (Reply.outcomeOf_ne_transportClosed _)
      | closed atEnd => exact atEnd
    · rintro rfl
      cases cause with
      | answered _ content => exact absurd content (Reply.outcomeOf_ne_notConnected _)
      | refused unwritten =>
        intro request hrequest same
        have written : (s.written.any fun r => r.id = caller.request.id) = true :=
          List.any_eq_true.2 ⟨request, hrequest, by simpa using same⟩
        exact absurd (written.symm.trans unwritten) (by simp)
    · intro later t rest all
      exact lives_on run Life.resolved_step found resolved rest all
  · intro leaving
    refine ⟨s.finish, by simp [step, Action.caller?, taskStep, leaving], ?_⟩
    rw [finish_eq, deliver_phase]
  · intro left later t rest
    exact left_run rest left
  · intro atEnd
    refine ⟨?_, ?_, ?_⟩
    · intro number caller found waits
      have sound := (lives number caller found).sound
      obtain ⟨errands, pending, -⟩ := sound.ended atEnd
      obtain ⟨outcome, slot⟩ : ∃ outcome, outcome? caller.answer = some outcome := by
        cases answer : caller.answer with
        | empty =>
          obtain asks | waiting := sound.waits waits answer
          · simp [errands] at asks
          · cases pending.symm.trans waiting
        | filled outcome => exact ⟨outcome, rfl⟩
        | abandoned => exact ⟨_, rfl⟩
      obtain ⟨since, stage⟩ : ∃ since, caller.stage = .waiting since := by
        unfold Caller.awaits at waits
        split at waits
        · exact ⟨_, ‹_›⟩
        · cases waits
      refine ⟨s.modifyCaller number (Caller.resolve outcome), outcome, ?_, caller.resolve outcome, ?_, rfl⟩
      · simp [step, Action.caller?, found, callerStep, stage, slot]
      · rw [getElem?_modifyCaller, if_pos rfl, found, Option.map_some]
    · intro number caller found admitted
      refine ⟨s.modifyCaller number (Caller.resolve (.error .notConnected)), ?_,
        caller.resolve (.error .notConnected), ?_, rfl⟩
      · simp [step, Action.caller?, found, callerStep, admitted, submitFrom, atEnd]
      · rw [getElem?_modifyCaller, if_pos rfl, found, Option.map_some]
    · intro action t hs number caller found new
      have shut : s.Shut := run.invariant (fun h => by cases h) shut_step
      obtain same | ⟨listens, request, ids, rfl, -⟩ := callers_step hs
      · have lengths := congrArg List.length same
        simp only [asked, List.length_map] at lengths
        have large := List.getElem?_eq_none_iff.1 new
        obtain ⟨small, -⟩ := List.getElem?_eq_some_iff.1 found
        omega
      · obtain ⟨-, rfl⟩ := newcomer (List.getElem?_eq_none_iff.1 new) found
        simp [Caller.start, shut atEnd]

/-- Two calls. The node sends noise, a frame for nobody and the second answer twice, and then the
connection breaks. -/
def conversation : List Action :=
  [.beginNext false "status" [], .beginNext false "health" [], .submit 0, .submit 1,
    .handleNext none, .handleNext none, .receive (.text "noise"),
    .receive (.text "\x7b\"id\":\"7\",\"result\":false\x7d"),
    .receive (.text "\x7b\"id\":\"6\",\"result\":true\x7d"),
    .receive (.text "\x7b\"id\":\"6\",\"result\":false\x7d"), .resume 1, .lose, .finish, .resume 0]

theorem conversation_is_correlated :
    ∃ s caller, (opened ⟨10⟩ ⟨5⟩).run conversation = some s ∧ s.callers[1]? = some caller ∧
      caller.stage = .resolved (.ok ⟨.text "6", .bool true⟩) ∧
      Cause (moments step conversation (opened ⟨10⟩ ⟨5⟩)) 1 (s.life 1 caller)
        (.ok ⟨.text "6", .bool true⟩) := by
  have possible : ((opened ⟨10⟩ ⟨5⟩).run conversation).isSome = true := rfl
  obtain ⟨s, run⟩ := Option.isSome_iff_exists.1 possible
  have stage : (((opened ⟨10⟩ ⟨5⟩).run conversation).bind fun s => s.callers[1]?.map Caller.stage) =
      some (.resolved (.ok ⟨.text "6", .bool true⟩)) := rfl
  rw [run] at stage
  obtain ⟨caller, found, resolved⟩ := Option.map_eq_some_iff.1 stage
  have distinct : Distinct (moments step conversation (opened ⟨10⟩ ⟨5⟩)) := by decide +kernel
  have correlated := (requests_are_correlated (history_of_run run) distinct).1
  exact ⟨s, caller, run, found, resolved, (correlated 1 caller _ found resolved).1⟩

end Socket

end Tendermint
