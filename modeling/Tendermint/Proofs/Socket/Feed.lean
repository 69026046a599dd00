import Mathlib.Data.List.Forall2
import Tendermint.Client.Subscription
import Tendermint.Proofs.Socket.Lives
import Tendermint.Proofs.Socket.Names

/-!
# Tendermint.Proofs.Socket.Feed

What a subscriber reads. Its feed has one item for every frame that came in under its subscription
while the task kept a route for it, in their order: the decoded event of that frame, or its error.
When the task ends `TransportClosed` is the last item.

* `Feed.IsItem`: the item that a frame is to a subscriber.
* `itemsFor`: the items of a subscription, before they are decoded.
* `Fed`, `fed_step`: what was read and what is still unread are together all of them.
* `feeds_are_exact`: every feed, over every run.
-/

namespace Tendermint

/-- The item that a frame is to a subscriber that decodes events: the decoded event in its result,
or the error of this one frame. -/
inductive Feed.IsItem {α : Type} (decode : Event → Except DecodeError α) (frame : Json) :
    Except ClientError α → Prop
  | decoded {answer : Success} {event : Event} {a : α} :
      Reply.outcomeOf (Reply.ofJson frame) = .ok answer → Event.ofJson answer.result = .ok event →
      decode event = .ok a → IsItem decode frame (.ok a)
  | undecoded {answer : Success} {event : Event} {e : DecodeError} :
      Reply.outcomeOf (Reply.ofJson frame) = .ok answer → Event.ofJson answer.result = .ok event →
      decode event = .error e → IsItem decode frame (.error (.decode e))
  | malformed {answer : Success} {fault : ShapeError} :
      Reply.outcomeOf (Reply.ofJson frame) = .ok answer →
      Event.ofJson answer.result = .error fault →
      IsItem decode frame (.error (.rpc (.invalidReply (.malformedEvent fault))))
  | failed {e : RpcError} :
      Reply.outcomeOf (Reply.ofJson frame) = .error e → IsItem decode frame (.error (.rpc e))

theorem Feed.isItem_eventOf {α : Type} (decode : Event → Except DecodeError α) (frame : Json) :
    IsItem decode frame (item decode (Router.eventOf frame)) := by
  unfold Router.eventOf
  cases outcome : Reply.outcomeOf (Reply.ofJson frame) with
  | error e => exact .failed outcome
  | ok answer =>
    change IsItem decode frame (item decode (Event.ofResult answer.result))
    unfold Event.ofResult
    cases holds : Event.ofJson answer.result with
    | error fault => exact .malformed outcome holds
    | ok event =>
      change IsItem decode frame ((decode event).mapError .decode)
      cases read : decode event with
      | error e => exact .undecoded outcome holds read
      | ok a => exact .decoded outcome holds read

namespace Socket

/-- The frames that are events of a subscription: they come in under it while it has a route, and
answer no request. -/
def eventFrames (id : RequestId) (m : Moment Socket Action) : List Json :=
  match incoming? m with
  | some (name, json) =>
    if name.key = id ∧ m.before.router.routes.contains id ∧ ¬ m.before.router.pending.contains name
    then [json]
    else []
  | none => []

theorem eventsFor_eq (id : RequestId) (m : Moment Socket Action) :
    eventsFor id m = (eventFrames id m).map Router.eventOf := by
  cases comes : incoming? m with
  | none => simp [eventsFor, eventFrames, comes]
  | some arrival =>
    simp only [eventsFor, eventFrames, comes]
    split <;> rfl

/-- The items of a subscription, first to last: one for every frame of its own, and
`TransportClosed`. -/
def itemsFor (id : RequestId) (past : List (Moment Socket Action)) : List (Except RpcError Event) :=
  past.flatMap (eventsFor id) ++ past.flatMap (closingFor id)

end Socket

namespace Life

variable {past : List (Moment Socket Socket.Action)} {m : Moment Socket Socket.Action}
  {number : Nat} {l l' : Life} {share : Share}

/-- The feed of a caller after the moments of a run. -/
structure Fed (past : List (Moment Socket Socket.Action)) (number : Nat) (l : Life) : Prop where
  /-- Nothing comes, and nothing is read, before the request was sent. -/
  early : l.caller.IsAside ∨ .ask ∈ l.errands →
    Socket.itemsFor l.caller.request.id past = [] ∧ past.flatMap (Socket.readBy number) = []
  /-- The last item comes at the end of the task. -/
  unclosed : l.phase ≠ .finished → past.flatMap (Socket.closingFor l.caller.request.id) = []
  read : past.flatMap (Socket.readBy number) <+: Socket.itemsFor l.caller.request.id past
  /-- For a caller that events still reach, the rest is unread. -/
  whole : l.caller.hears = true →
    past.flatMap (Socket.readBy number) ++ l.caller.feed.unread =
      Socket.itemsFor l.caller.request.id past
  /-- A caller that has a subscription at the end of the task, or still gets one, gets
  `transportClosed`. -/
  closed : l.Hopes → l.phase = .finished →
    past.flatMap (Socket.closingFor l.caller.request.id) = [.error .transportClosed]

/-- Before a request is sent nothing is shared with its caller. -/
theorem early_step (sound : l.Sound) (step : l.Step m number share l')
    (later : l'.caller.IsAside ∨ .ask ∈ l'.errands) :
    (l.caller.IsAside ∨ .ask ∈ l.errands) ∧ share = .none := by
  have held := sound.held
  have once := sound.once
  have untouched := sound.untouched
  have genuine := sound.genuine
  cases step with
  | resumed _ found =>
    have slot := Socket.outcome?_eq_some.1 found
    grind
  | read holding | dropped holding =>
    obtain ⟨_, success, stage, filled⟩ := sound.holds holding
    grind
  | _ => grind [Share.none]

/-- Events come only while the task runs, and the last item only as it finishes. -/
theorem events_step (step : l.Step m number share l') :
    share.events = [] ∨ l.phase = .running ∧ share.closing = [] := by
  cases step with
  | heard running _ => exact .inr ⟨running, rfl⟩
  | _ => exact .inl rfl

theorem closing_step (step : l.Step m number share l') : share.closing = [] ∨ l'.phase = .finished := by
  cases step with
  | finished _ => exact .inr rfl
  | _ => exact .inl rfl

/-- The task finishes in one step, and then stays finished. -/
theorem end_step (step : l.Step m number share l') (atEnd : l'.phase = .finished) :
    l.phase = .finished ∧ share.closing = [] ∨
      l.phase = .leaving ∧ share.closing = if l.routed then [.error .transportClosed] else [] := by
  cases step with
  | finished leaving => exact .inr ⟨leaving, rfl⟩
  | still on =>
    obtain same | ⟨-, rfl⟩ := on
    · exact .inl ⟨same.symm.trans atEnd, rfl⟩
    · cases atEnd
  | unsent | unsubscribed => grind
  | _ => exact .inl ⟨atEnd, rfl⟩

/-- After the end, or in the step that leads to it, no caller begins to wait for a stream. -/
theorem hopes_step (sound : l.Sound) (step : l.Step m number share l') (atEnd : l'.phase = .finished)
    (hopes : l'.Hopes) : l.Hopes := by
  have holds := sound.holds
  cases step with
  | @resumed outcome waits found =>
    have slot := Socket.outcome?_eq_some.1 found
    cases outcome with
    | ok success => grind
    | error error => grind
  | finished leaving =>
    have same := closed_answer l.pending l.routed (l.errands.contains .ask) l.caller
    have stage := closed_stage l.pending l.routed (l.errands.contains .ask) l.caller
    have listens := (request_step (.finished leaving : l.Step m number _ _)).2
    grind
  | _ => grind

/-- The end adds the last item to a feed that goes on until then. -/
theorem closed_unread (pending routed asks : Bool) {c : Caller} (hears : c.hears = true)
    (attached : routed = true → c.feed.attached = true) :
    (c.closed pending routed asks).feed.unread =
      c.feed.unread ++ if routed then [.error .transportClosed] else [] := by
  cases pending <;> cases routed <;> cases asks <;> grind

/-- A caller that reads holds a stream and goes on holding it. -/
theorem reads_step (sound : l.Sound) (step : l.Step m number share l') :
    share.reads = [] ∨ l'.caller.hears = true := by
  cases step with
  | read holding =>
    right
    obtain ⟨listens, -⟩ := sound.holds holding
    simp [Caller.hears, listens, holding]
  | _ => exact .inl rfl

/-- A caller that events reach was reached by them before, or has just put its command into the
queue. -/
theorem hears_step (step : l.Step m number share l') (hears : l'.caller.hears = true) :
    l.caller.hears = true ∨ .ask ∈ l'.errands := by
  cases step with
  | submitted _ _ => exact .inr (by simp)
  | _ => grind

/-- What comes is unread until it is read. -/
theorem unread_step (sound : l.Sound) (step : l.Step m number share l')
    (hears : l.caller.hears = true) (still : l'.caller.hears = true) :
    share.reads ++ l'.caller.feed.unread =
      l.caller.feed.unread ++ share.events ++ share.closing := by
  cases step with
  | read _ => cases l.caller.feed.unread <;> simp
  | heard _ routed =>
    rw [Caller.heard_attached _ hears (sound.attached routed).2]
    simp
  | finished _ =>
    have attached := fun routed => (sound.attached routed).2
    rw [closed_unread _ _ _ hears attached]
    simp
  | _ => grind [Share.none]

/-- What a step adds to the items of a subscription. -/
theorem items_step (fed : Fed past number l) (step : l.Step m number share l')
    (shared : Socket.share number l.caller.request.id m = share) :
    Socket.itemsFor l'.caller.request.id (past ++ [m]) =
      Socket.itemsFor l.caller.request.id past ++ share.events ++ share.closing := by
  have events : Socket.eventsFor l.caller.request.id m = share.events := congrArg Share.events shared
  have closing : Socket.closingFor l.caller.request.id m = share.closing :=
    congrArg Share.closing shared
  rw [(request_step step).1, Socket.itemsFor, Socket.itemsFor, List.flatMap_append,
    List.flatMap_append, List.flatMap_singleton, List.flatMap_singleton, events, closing]
  obtain silent | ⟨running, unclosing⟩ := events_step step
  · simp [silent]
  · have unclosed := fed.unclosed (by simp [running])
    simp [unclosed, unclosing]

theorem fed_step (sound : l.Sound) (fed : Fed past number l) (step : l.Step m number share l')
    (shared : Socket.share number l.caller.request.id m = share) : Fed (past ++ [m]) number l' := by
  have request := (request_step step).1
  have items := items_step fed step shared
  have reads : (past ++ [m]).flatMap (Socket.readBy number) =
      past.flatMap (Socket.readBy number) ++ share.reads := by
    rw [List.flatMap_append, List.flatMap_singleton, ← shared]
    rfl
  have closing : (past ++ [m]).flatMap (Socket.closingFor l'.caller.request.id) =
      past.flatMap (Socket.closingFor l.caller.request.id) ++ share.closing := by
    rw [request, List.flatMap_append, List.flatMap_singleton, ← shared]
    rfl
  have early : l'.caller.IsAside ∨ .ask ∈ l'.errands →
      Socket.itemsFor l'.caller.request.id (past ++ [m]) = [] ∧
        (past ++ [m]).flatMap (Socket.readBy number) = [] := by
    intro later
    obtain ⟨before, rfl⟩ := early_step sound step later
    obtain ⟨nothing, unread⟩ := fed.early before
    rw [items, reads, nothing, unread]
    exact ⟨rfl, rfl⟩
  have whole : l'.caller.hears = true →
      (past ++ [m]).flatMap (Socket.readBy number) ++ l'.caller.feed.unread =
        Socket.itemsFor l'.caller.request.id (past ++ [m]) := by
    intro still
    obtain hears | asks := hears_step step still
    · calc (past ++ [m]).flatMap (Socket.readBy number) ++ l'.caller.feed.unread
          = past.flatMap (Socket.readBy number) ++ (share.reads ++ l'.caller.feed.unread) := by
            rw [reads, List.append_assoc]
        _ = past.flatMap (Socket.readBy number) ++
              (l.caller.feed.unread ++ share.events ++ share.closing) := by
            rw [unread_step sound step hears still]
        _ = Socket.itemsFor l.caller.request.id past ++ share.events ++ share.closing := by
            rw [← fed.whole hears]
            simp only [List.append_assoc]
        _ = Socket.itemsFor l'.caller.request.id (past ++ [m]) := items.symm
    -- A caller that has just put its command into the queue has neither got nor read anything.
    · obtain ⟨nothing, unread⟩ := early (.inr asks)
      obtain ⟨-, -, -, -, feed⟩ := (sound_step sound step).untouched (.inr asks)
      rw [nothing, unread, feed]
      rfl
  refine ⟨early, ?_, ?_, whole, ?_⟩
  · intro unended
    have before : l.phase ≠ .finished := fun atEnd => unended (finished_step step atEnd)
    obtain none_now | atEnd := closing_step step
    · rw [closing, fed.unclosed before, none_now]
      rfl
    · exact absurd atEnd unended
  -- What is read comes out of what has reached the reader, which is all of it.
  · obtain none_now | still := reads_step sound step
    · rw [reads, items, none_now, List.append_nil, List.append_assoc]
      exact fed.read.trans (List.prefix_append _ _)
    · exact ⟨_, whole still⟩
  · intro hopes atEnd
    have before := hopes_step sound step atEnd hopes
    obtain ⟨ended, none_now⟩ | ⟨leaving, told⟩ := end_step step atEnd
    · rw [closing, fed.closed before ended, none_now]
      rfl
    -- A caller that waits for a stream or holds one has a route until the end, and every route
    -- gets `transportClosed` then.
    · have unclosed := fed.unclosed (by simp [leaving])
      have routed := sound.route before (by simp [leaving])
      rw [closing, unclosed, told, routed]
      rfl

end Life

theorem Lived.fed {number : Nat} {past : List (Moment Socket Socket.Action)} {l : Life}
    (lived : Lived number past l) : l.Fed past number := by
  induction lived with
  | @born past request listens stage phase stage_eq before =>
    have quiet : ∀ {f : Share → List (Except RpcError Event)}, f .none = [] →
        past.flatMap (fun m => f (Socket.share number request.id m)) = [] := by
      intro f none_now
      rw [List.flatMap_eq_nil_iff]
      intro m hm
      rw [before m hm, none_now]
    have events : past.flatMap (Socket.eventsFor request.id) = [] := quiet (f := Share.events) rfl
    have closing : past.flatMap (Socket.closingFor request.id) = [] := quiet (f := Share.closing) rfl
    have reads : past.flatMap (Socket.readBy number) = [] := quiet (f := Share.reads) rfl
    have items : Socket.itemsFor request.id past = [] := by
      rw [Socket.itemsFor, events, closing]
      rfl
    refine ⟨fun _ => ⟨items, reads⟩, fun _ => closing, ?_, ?_, ?_⟩
    · rw [reads]
      exact List.nil_prefix
    · intro hears
      change past.flatMap (Socket.readBy number) ++ [] = Socket.itemsFor request.id past
      rw [reads, items]
      rfl
    · rintro (holds | ⟨-, -, waits | ⟨success, filled⟩⟩) _
      · cases holds
      · cases waits
      · cases filled
  | next lived step shared ih => exact Life.fed_step lived.sound ih step shared

/-- What comes in as an event is never `transportClosed`. -/
theorem Router.eventOf_ne_transportClosed (json : Json) :
    Router.eventOf json ≠ .error .transportClosed := by
  intro gone
  unfold Router.eventOf at gone
  split at gone
  · rename_i error failed
    cases gone
    exact Reply.outcomeOf_ne_transportClosed json failed
  · rename_i answer _
    unfold Event.ofResult at gone
    cases read : Event.ofJson answer.result with
    | error fault => simp [read, Except.mapError] at gone
    | ok event => simp [read, Except.mapError] at gone

namespace Socket

variable {past : List (Moment Socket Action)} {s : Socket}

/-- A frame is an event of one subscription at most. -/
theorem eventsFor_apart {id other : RequestId} (apart : id ≠ other) (m : Moment Socket Action) :
    eventsFor id m = [] ∨ eventsFor other m = [] := by
  cases comes : incoming? m with
  | none =>
    left
    simp only [eventsFor, comes]
  | some arrival =>
    obtain ⟨name, json⟩ := arrival
    by_cases own : name.key = id
    · right
      have away : name.key ≠ other := fun same => apart (own.symm.trans same)
      simp [eventsFor, comes, away]
    · left
      simp [eventsFor, comes, own]

/-- A caller that holds a stream can read all that is unread. -/
theorem read_all {number : Nat} {caller : Caller} (found : s.callers[number]? = some caller)
    (holds : caller.holds = true) :
    ∃ later t, History step s later t ∧ (∀ m ∈ later, m.action = .read number) ∧
      later.flatMap (readBy number) = caller.feed.unread := by
  generalize left : caller.feed.unread = unread
  induction unread generalizing s caller with
  | nil => exact ⟨[], s, .start, nofun, rfl⟩
  | cons item rest ih =>
    let advance : Caller → Caller := fun c =>
      { c with feed := { c.feed with unread := c.feed.unread.tail } }
    have reads : s.step (.read number) = some (s.modifyCaller number advance) := by
      simp [step, Action.caller?, found, callerStep, holds, advance]
    have after : (s.modifyCaller number advance).callers[number]? = some (advance caller) := by
      rw [getElem?_modifyCaller, if_pos rfl, found, Option.map_some]
    have fewer : (advance caller).feed.unread = rest := congrArg List.tail left
    obtain ⟨later, t, run, only, all⟩ := ih after holds fewer
    refine ⟨⟨s, .read number⟩ :: later, t, (History.single reads).append run, ?_, ?_⟩
    · intro m hm
      obtain rfl | hm := List.mem_cons.1 hm
      · rfl
      · exact only m hm
    · have now : readBy number ⟨s, .read number⟩ = [item] := by simp [readBy, found, left]
      rw [List.flatMap_cons, now, all]
      rfl

/-- The decoded items of a subscription are one for each of its frames, in their order, and a
`TransportClosed` for the end of the task. -/
theorem items_decoded {α : Type} (decode : Event → Except DecodeError α) (id : RequestId)
    (past : List (Moment Socket Action)) :
    ∃ items, List.Forall₂ (Feed.IsItem decode) (past.flatMap (eventFrames id)) items ∧
      (itemsFor id past).map (Feed.item decode) =
        items ++ (past.flatMap (closingFor id)).map fun _ => .error (.rpc .transportClosed) := by
  refine ⟨(past.flatMap (eventFrames id)).map fun frame => Feed.item decode (Router.eventOf frame),
    ?_, ?_⟩
  · rw [List.forall₂_map_right_iff, List.forall₂_same]
    exact fun frame _ => Feed.isItem_eventOf decode frame
  · have events : past.flatMap (eventsFor id) =
        (past.flatMap (eventFrames id)).map Router.eventOf := by
      rw [List.map_flatMap]
      exact congrArg past.flatMap (funext (eventsFor_eq id))
    have closing : (past.flatMap (closingFor id)).map (Feed.item decode) =
        (past.flatMap (closingFor id)).map fun _ => .error (.rpc .transportClosed) := by
      refine List.map_congr_left fun raw mem => ?_
      obtain ⟨m, -, closes⟩ := List.mem_flatMap.1 mem
      unfold closingFor at closes
      split at closes
      · split at closes
        · rw [List.mem_singleton.1 closes]
          rfl
        · cases closes
      · cases closes
    rw [itemsFor, List.map_append, closing, events, List.map_map]
    rfl

/-- Over a run that uses no identifier twice, as none out of one row does, what a subscriber has
read is a beginning of the items of its subscription, decoded one by one: for each of its frames the
decoded event or the error of that frame, and a `TransportClosed` for the end of the task. As long
as it holds the stream the rest is unread, and it can read on to the last of them: nothing is lost,
twice there or out of its place. A stream that is held goes on, with a route, until the task comes
to its end; `TransportClosed` comes then, once and after all events, and nothing after it. No frame
is an event for two callers, and those of a decimal identifier are under it or under the one that
marks its events. -/
theorem feeds_are_exact {timeout : Duration} {ids : RequestId.Counter}
    (run : History step (opened timeout ids) past s) (distinct : Distinct past)
    {number : Nat} {caller : Caller} (found : s.callers[number]? = some caller) :
    (∀ {α : Type} (decode : Event → Except DecodeError α),
      (past.flatMap (readBy number)).map (Feed.item decode) <+:
          (itemsFor caller.request.id past).map (Feed.item decode) ∧
        (caller.holds = true →
          (past.flatMap (readBy number)).map (Feed.item decode) ++
                caller.feed.unread.map (Feed.item decode) =
              (itemsFor caller.request.id past).map (Feed.item decode) ∧
            ∃ later t, History step s later t ∧ (∀ m ∈ later, m.action = .read number) ∧
              ((past ++ later).flatMap (readBy number)).map (Feed.item decode) =
                (itemsFor caller.request.id past).map (Feed.item decode)) ∧
        ∃ items, List.Forall₂ (Feed.IsItem decode) (past.flatMap (eventFrames caller.request.id))
            items ∧
          (itemsFor caller.request.id past).map (Feed.item decode) = items ++
            (past.flatMap (closingFor caller.request.id)).map fun _ =>
              .error (.rpc .transportClosed)) ∧
    (caller.holds = true →
      caller.feed.attached = decide (s.phase ≠ .finished) ∧
      s.router.routes.contains caller.request.id = decide (s.phase ≠ .finished) ∧
      past.flatMap (closingFor caller.request.id) =
        if s.phase = .finished then [.error .transportClosed] else []) ∧
    .error .transportClosed ∉ past.flatMap (eventsFor caller.request.id) ∧
    (∀ other (peer : Caller), s.callers[other]? = some peer → other ≠ number →
      ∀ m ∈ past, eventsFor caller.request.id m = [] ∨ eventsFor peer.request.id m = []) ∧
    ∀ n : Nat, caller.request.id = .text (toString n) →
      ∀ name : RequestId, name.key = caller.request.id ↔
        name = caller.request.id ∨ name = .ofEvent (toString n) := by
  obtain ⟨ordered, -, lives⟩ := lived_run run distinct
  have lived := lives number caller found
  have sound := lived.sound
  have fed := lived.fed
  refine ⟨?_, ?_, ?_, ?_, ?_⟩
  · intro α decode
    refine ⟨?_, ?_, items_decoded decode caller.request.id past⟩
    · exact fed.read.map (Feed.item decode)
    · intro holds
      have listens : caller.listens = true := (sound.holds holds).1
      have hears : caller.hears = true := by
        rw [Caller.hears, listens, holds, Bool.or_true]
        rfl
      have whole := fed.whole hears
      obtain ⟨later, t, reading, only, all⟩ := read_all found holds
      constructor
      · rw [← List.map_append]
        exact congrArg (List.map (Feed.item decode)) whole
      · refine ⟨later, t, reading, only, ?_⟩
        rw [List.flatMap_append, all]
        exact congrArg (List.map (Feed.item decode)) whole
  · intro holds
    have hopes : (s.life number caller).Hopes := .inl holds
    by_cases atEnd : s.phase = .finished
    · obtain ⟨-, -, routed, detached⟩ := sound.ended atEnd
      have closing := fed.closed hopes atEnd
      rw [if_pos atEnd, decide_eq_false (by simpa using atEnd)]
      exact ⟨detached hopes, routed, closing⟩
    · have routed := sound.route hopes atEnd
      rw [if_neg atEnd, decide_eq_true atEnd]
      exact ⟨(sound.attached routed).2, routed, fed.unclosed atEnd⟩
  · intro gone
    obtain ⟨m, -, hm⟩ := List.mem_flatMap.1 gone
    unfold eventsFor at hm
    split at hm
    · split at hm
      · exact Router.eventOf_ne_transportClosed _ (List.mem_singleton.1 hm).symm
      · cases hm
    · cases hm
  · intro other peer present away m _
    apply eventsFor_apart
    intro same
    exact away (ordered.same (getElem?_asked present) (getElem?_asked found) same.symm)
  · intro n id name
    rw [id]
    exact RequestId.key_eq_text (RequestId.Counter.plain_toString n)

/-- A subscription to transactions. Its first event comes before it is acknowledged, the second has
no payload and the third a payload of another kind; then an event of another subscription comes in,
and the connection breaks. -/
def subscription : List Action :=
  [.beginNext true "subscribe" (Params.subscription ⟨"tm.event='Tx'"⟩), .submit 0, .handleNext none,
    .receive (.text ("\x7b\"id\":\"5#event\",\"result\":[null,[\"t\",\x7b\"TxResult\":" ++
      "\x7b\"tx\":\"\",\"result\":\x7b\x7d,\"height\":\"1\",\"index\":\"0\"\x7d\x7d]]\x7d")),
    .receive (.text "\x7b\"id\":\"5\",\"result\":\x7b\x7d\x7d"), .resume 0, .read 0,
    .receive (.text "\x7b\"id\":\"5\",\"result\":1\x7d"), .read 0,
    .receive (.text "\x7b\"id\":\"5#event\",\"result\":[null,[\"t\",1]]\x7d"),
    .receive (.text "\x7b\"id\":\"6\",\"result\":1\x7d"), .lose, .finish]

/-- Two items are read and two are left. -/
theorem subscription_is_exact :
    ∃ s caller, (opened ⟨10⟩ ⟨5⟩).run subscription = some s ∧ s.callers[0]? = some caller ∧
      caller.holds = true ∧ caller.feed.attached = false ∧
      caller.feed.unread.map (Feed.item (Event.tx .v0_25)) =
        [.error (.decode (.unexpectedEvent "t" "TxResult")), .error (.rpc .transportClosed)] ∧
      (itemsFor caller.request.id (moments step subscription (opened ⟨10⟩ ⟨5⟩))).map
          (Feed.item (Event.tx .v0_25)) =
        [.ok ⟨[], Version.v0_25.hashTx [], ⟨0, none, none, none⟩, 1, 0⟩,
          .error (.rpc (.invalidReply (.malformedEvent
            (.wrongKind (.number (.integer 1)) "struct JsonRpcEvent")))),
          .error (.decode (.unexpectedEvent "t" "TxResult")), .error (.rpc .transportClosed)] := by
  have possible : ((opened ⟨10⟩ ⟨5⟩).run subscription).isSome = true := by decide +kernel
  obtain ⟨s, run⟩ := Option.isSome_iff_exists.1 possible
  have callers : (((opened ⟨10⟩ ⟨5⟩).run subscription).bind fun s => s.callers[0]?.map fun c =>
      (c.holds, c.feed.attached, c.feed.unread.map (Feed.item (Event.tx .v0_25)))) =
        some (true, false, [.error (.decode (.unexpectedEvent "t" "TxResult")),
          .error (.rpc .transportClosed)]) := rfl
  rw [run] at callers
  obtain ⟨caller, found, eq⟩ := Option.map_eq_some_iff.1 callers
  obtain ⟨holds, eq⟩ := Prod.mk.inj eq
  obtain ⟨attached, unread⟩ := Prod.mk.inj eq
  have read : ((moments step subscription (opened ⟨10⟩ ⟨5⟩)).flatMap (readBy 0)).map
        (Feed.item (Event.tx .v0_25)) =
      [.ok ⟨[], Version.v0_25.hashTx [], ⟨0, none, none, none⟩, 1, 0⟩,
        .error (.rpc (.invalidReply (.malformedEvent
          (.wrongKind (.number (.integer 1)) "struct JsonRpcEvent"))))] := rfl
  have distinct : Distinct (moments step subscription (opened ⟨10⟩ ⟨5⟩)) := by decide +kernel
  have exact_feed := (feeds_are_exact (history_of_run run) distinct found).1 (Event.tx .v0_25)
  have whole := (exact_feed.2.1 holds).1
  rw [read, unread] at whole
  exact ⟨s, caller, run, found, holds, attached, unread, whole.symm⟩

end Socket

end Tendermint
