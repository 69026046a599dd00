import Tendermint.Proofs.Socket.Effect

/-!
# Tendermint.Proofs.Socket.Life

One caller among the others: all of a connection that matters to it, and all that a step of the
connection can be to it.

* `Socket.share`: what a moment of a run brings to a caller and takes from it.
* `Life`, `Socket.life`: a caller with its errands in the queue and its entries in the tables.
* `Life.Step`: the steps of a life.
* `Lived`: the life of a caller along the moments of a run.
* `Life.Sound`, `Lived.sound`: how a request, its entries and its answer go together, always.
-/

namespace Tendermint

namespace Socket

/-- The frames that come in for a request while it waits in the table. -/
def framesFor (id : RequestId) (m : Moment Socket Action) : List Json :=
  match incoming? m with
  | some (name, json) => if name = id ∧ m.before.router.pending.contains id then [json] else []
  | none => []

/-- The events that come in for a subscription while it has a route: what a frame holds that
answers no request. -/
def eventsFor (id : RequestId) (m : Moment Socket Action) : List (Except RpcError Event) :=
  match incoming? m with
  | some (name, json) =>
    if name.key = id ∧ m.before.router.routes.contains id ∧ ¬ m.before.router.pending.contains name
    then [Router.eventOf json]
    else []
  | none => []

/-- The item of a subscription when the task finishes while it has a route. -/
def closingFor (id : RequestId) (m : Moment Socket Action) : List (Except RpcError Event) :=
  match m.action with
  | .finish => if m.before.router.routes.contains id then [.error .transportClosed] else []
  | _ => []

/-- The items that a caller reads at a moment: the next one, if there is one. -/
def readBy (number : Nat) (m : Moment Socket Action) : List (Except RpcError Event) :=
  match m.action with
  | .read reader =>
    if reader = number then
      (m.before.callers[number]?.bind fun caller => caller.feed.unread.head?).toList
    else []
  | _ => []

end Socket

/-- What a moment brings to one caller and takes from it. -/
structure Share where
  frames : List Json
  events : List (Except RpcError Event)
  closing : List (Except RpcError Event)
  reads : List (Except RpcError Event)

def Share.none : Share := ⟨[], [], [], []⟩

def Socket.share (number : Nat) (id : RequestId) (m : Moment Socket Action) : Share :=
  ⟨framesFor id m, eventsFor id m, closingFor id m, readBy number m⟩

/-- What a caller still has in the queue. -/
inductive Errand where
  | ask
  | unsubscribe
  | forget
  deriving DecidableEq, Repr

/-- A caller and all that the connection keeps for it. -/
structure Life where
  caller : Caller
  /-- Its commands in the queue, the next one first. -/
  errands : List Errand
  /-- Whether its request waits for an answer in the table. -/
  pending : Bool
  /-- Whether its subscription has a route. -/
  routed : Bool
  /-- Whether a request under its identifier was written to the socket. -/
  written : Bool
  phase : SocketPhase

/-- The errand of a caller that a command is, if it is one of this caller's. -/
def errand? (number : Nat) (id : RequestId) : SocketCommand → Option Errand
  | .call _ caller => if caller = number then some .ask else none
  | .listen _ caller => if caller = number then some .ask else none
  | .unsubscribe other => if other = id then some .unsubscribe else none
  | .forget other => if other = id then some .forget else none
  | .disconnect => none

def Socket.life (s : Socket) (number : Nat) (caller : Caller) : Life where
  caller := caller
  errands := s.queue.filterMap (errand? number caller.request.id)
  pending := s.router.pending.contains caller.request.id
  routed := s.router.routes.contains caller.request.id
  written := s.written.any fun request => request.id = caller.request.id
  phase := s.phase

namespace Caller

/-- Its feed gets nothing more, if a condition holds. -/
def detachedIf (condition : Bool) (caller : Caller) : Caller :=
  if condition then caller.detached else caller

/-- What the end of the task delivers to a caller: the answer `transportClosed` if its request waits
in the table, the item `transportClosed` and the end of its feed if it has a route, and no answer at
all if its command is dropped from the queue. -/
def closed (pending routed asks : Bool) (caller : Caller) : Caller :=
  let told := if pending then caller.answered (.filled (.error .transportClosed)) else caller
  let ended := if routed then (told.heard (.error .transportClosed)).detached else told
  if asks then (ended.answered .abandoned).detachedIf caller.listens else ended

/-- Whether its command was never put into the queue. -/
def IsAside (caller : Caller) : Prop :=
  caller.stage = .admitted ∨ caller.stage = .resolved (.error .notConnected)

end Caller

namespace Life

/-- A caller that has just come. -/
def born (request : Request) (listens : Bool) (stage : CallerStage) (phase : SocketPhase) : Life :=
  ⟨.start request listens stage, [], false, false, false, phase⟩

/-- The errands after one more, which is dropped if the task has finished. -/
def sending (errand : Errand) (l : Life) : List Errand :=
  if l.phase = .finished then l.errands else l.errands ++ [errand]

/-- What a moment of a run can be to one caller, and what is shared with it. -/
inductive Step (m : Moment Socket Socket.Action) (number : Nat) (l : Life) : Share → Life → Prop
  /-- Nothing happens to it, but the task may leave. -/
  | still {phase : SocketPhase} (on : phase = l.phase ∨ l.phase = .running ∧ phase = .leaving) :
      Step m number l .none { l with phase }
  | submitted (stage : l.caller.stage = .admitted) (phase : l.phase ≠ .finished) :
      Step m number l .none
        { l with
          caller := { l.caller with stage := .waiting m.before.now }
          errands := l.errands ++ [.ask] }
  | refused (stage : l.caller.stage = .admitted) (phase : l.phase = .finished) :
      Step m number l .none { l with caller := l.caller.resolve (.error .notConnected) }
  | resumed {outcome : Except RpcError Success} (waits : l.caller.awaits = true)
      (found : Socket.outcome? l.caller.answer = some outcome) :
      Step m number l .none { l with caller := l.caller.resolve outcome }
  | expired {since : Duration} (action : m.action = .expire number)
      (found : m.before.callers[number]? = some l.caller)
      (stage : l.caller.stage = .waiting since)
      (due : since.nanoseconds + m.before.timeout.nanoseconds ≤ m.before.now.nanoseconds) :
      Step m number l .none
        { l with
          caller := l.caller.resolve (.error (.timeout m.before.timeout))
          errands := l.sending .forget }
  | abandoned (waits : l.caller.awaits = true) :
      Step m number l .none { l with caller := { l.caller with stage := .gone } }
  | read (holds : l.caller.holds = true) :
      Step m number l ⟨[], [], [], l.caller.feed.unread.head?.toList⟩
        { l with
          caller := { l.caller with
            feed := { l.caller.feed with unread := l.caller.feed.unread.tail } } }
  | dropped (holds : l.caller.holds = true) :
      Step m number l .none
        { l with
          caller := { l.caller with holds := false }
          errands := l.sending .unsubscribe }
  | sent {rest : List Errand} (phase : l.phase = .running) (next : l.errands = .ask :: rest) :
      Step m number l .none
        { l with errands := rest, pending := true, routed := l.caller.listens, written := true }
  | unsent {rest : List Errand} {fault : NetworkFault} (phase : l.phase = .running)
      (next : l.errands = .ask :: rest) (action : m.action = .handleNext (some fault))
      (head : m.before.queue.head? = some (Socket.commandFor number l.caller.asked)) :
      Step m number l .none
        { l with
          caller := (l.caller.answered (.filled (.error (.webSocket fault)))).detached
          errands := rest
          phase := .leaving }
  | unsubscribed {rest : List Errand} {phase : SocketPhase} (running : l.phase = .running)
      (on : phase = .running ∨ phase = .leaving) (next : l.errands = .unsubscribe :: rest) :
      Step m number l .none
        { l with
          caller := l.caller.detachedIf l.routed
          errands := rest
          routed := false
          phase }
  | forgotten {rest : List Errand} (phase : l.phase = .running)
      (next : l.errands = .forget :: rest) :
      Step m number l .none
        { l with
          caller := (if l.pending then l.caller.answered .abandoned else l.caller).detachedIf l.routed
          errands := rest
          pending := false
          routed := false }
  | answered {json : Json} (phase : l.phase = .running) (waits : l.pending = true)
      (name : Router.frameId? json = some l.caller.request.id)
      (kept : l.caller.listens = true →
        Router.isFailure (Reply.outcomeOf (Reply.ofJson json)) = false) :
      Step m number l ⟨[json], [], [], []⟩
        { l with
          caller := l.caller.answered (.filled (Reply.outcomeOf (Reply.ofJson json)))
          pending := false }
  | rejected {json : Json} {error : RpcError} (phase : l.phase = .running)
      (waits : l.pending = true) (name : Router.frameId? json = some l.caller.request.id)
      (listens : l.caller.listens = true)
      (failed : Reply.outcomeOf (Reply.ofJson json) = .error error) :
      Step m number l ⟨[json], [], [], []⟩
        { l with
          caller := (l.caller.detachedIf l.routed).answered (.filled (.error error))
          pending := false
          routed := false }
  | heard {item : Except RpcError Event} (phase : l.phase = .running) (routed : l.routed = true) :
      Step m number l ⟨[], [item], [], []⟩ { l with caller := l.caller.heard item }
  | finished (phase : l.phase = .leaving) :
      Step m number l ⟨[], [], if l.routed then [.error .transportClosed] else [], []⟩
        { l with
          caller := l.caller.closed l.pending l.routed (l.errands.contains .ask)
          errands := []
          pending := false
          routed := false
          phase := .finished }

/-- Nothing was done yet for its request. -/
def Untouched (l : Life) : Prop :=
  l.pending = false ∧ l.routed = false ∧ l.written = false ∧ l.caller.answer = .empty ∧
    l.caller.feed = .start

/-- Its subscription was acknowledged, or can still be. -/
def Hopes (l : Life) : Prop :=
  l.caller.holds = true ∨
    l.caller.listens = true ∧ l.caller.awaits = true ∧
      (l.pending = true ∨ ∃ success, l.caller.answer = .filled (.ok success))

/-- How a request, its entries in the tables and its answer go together. -/
structure Sound (l : Life) : Prop where
  held : l.caller.IsAside → l.errands = []
  once : .ask ∉ l.errands.tail
  untouched : l.caller.IsAside ∨ .ask ∈ l.errands → l.Untouched
  unanswered : l.pending = true → l.caller.answer = .empty
  /-- A caller that waits has an answer, or one can still come. -/
  waits : l.caller.awaits = true → l.caller.answer = .empty →
    .ask ∈ l.errands ∨ l.pending = true
  /-- A caller that has sent an `unsubscribe` or a `forget` neither waits nor holds a stream. -/
  parted : .unsubscribe ∈ l.errands ∨ .forget ∈ l.errands →
    l.caller.awaits = false ∧ l.caller.holds = false
  holds : l.caller.holds = true →
    l.caller.listens = true ∧
      ∃ success, l.caller.stage = .resolved (.ok success) ∧ l.caller.answer = .filled (.ok success)
  route : l.Hopes → l.phase ≠ .finished → l.routed = true
  attached : l.routed = true → l.caller.listens = true ∧ l.caller.feed.attached = true
  /-- After the end nothing is left, and no feed goes on. -/
  ended : l.phase = .finished →
    l.errands = [] ∧ l.pending = false ∧ l.routed = false ∧
      (l.Hopes → l.caller.feed.attached = false)
  abandoned : l.caller.answer = .abandoned → l.phase = .finished
  /-- No answer is `notConnected`. -/
  genuine : l.caller.answer ≠ .filled (.error .notConnected)

end Life

/-- The life of a caller after the moments of a run. -/
inductive Lived (number : Nat) : List (Moment Socket Socket.Action) → Life → Prop
  | born {past : List (Moment Socket Socket.Action)} {request : Request} {listens : Bool}
      {stage : CallerStage} {phase : SocketPhase}
      (stage_eq : stage = .admitted ∨ stage = .resolved (.error .notConnected))
      (before : ∀ m ∈ past, Socket.share number request.id m = .none) :
      Lived number past (.born request listens stage phase)
  | next {past : List (Moment Socket Socket.Action)} {m : Moment Socket Socket.Action} {l l' : Life}
      {share : Share} (lived : Lived number past l) (step : l.Step m number share l')
      (shared : Socket.share number l.caller.request.id m = share) :
      Lived number (past ++ [m]) l'

theorem Socket.outcome?_eq_some {slot : AnswerSlot} {outcome : Except RpcError Success} :
    Socket.outcome? slot = some outcome ↔
      slot = .filled outcome ∨ slot = .abandoned ∧ outcome = .error .transportClosed := by
  cases slot <;> simp [Socket.outcome?, eq_comm]

/-- What comes out of a frame is never `notConnected`. -/
@[grind .]
theorem Reply.outcomeOf_ne_notConnected (json : Json) :
    Reply.outcomeOf (Reply.ofJson json) ≠ .error .notConnected := by
  cases Reply.ofJson json with
  | error fault => simp [Reply.outcomeOf]
  | ok reply => cases reply <;> simp [Reply.outcomeOf, Reply.outcome]

/-- What comes out of a frame is never `transportClosed`. -/
theorem Reply.outcomeOf_ne_transportClosed (json : Json) :
    Reply.outcomeOf (Reply.ofJson json) ≠ .error .transportClosed := by
  cases Reply.ofJson json with
  | error fault => simp [Reply.outcomeOf]
  | ok reply => cases reply <;> simp [Reply.outcomeOf, Reply.outcome]

namespace Life

variable {m : Moment Socket Socket.Action} {number : Nat} {l l' : Life} {share : Share}

attribute [grind] Hopes Untouched sending Caller.IsAside Caller.awaits Caller.hears Caller.resolve
  Caller.answered Caller.heard Caller.detached Caller.detachedIf Caller.closed FeedSlot.start
  FeedSlot.push FeedSlot.detach Router.isFailure

theorem closed_answer (pending routed asks : Bool) (c : Caller) :
    (c.closed pending routed asks).answer = c.answer ∨
      (c.closed pending routed asks).answer = .filled (.error .transportClosed) ∨
      (c.closed pending routed asks).answer = .abandoned := by
  grind

theorem closed_stage (pending routed asks : Bool) (c : Caller) :
    (c.closed pending routed asks).stage = c.stage := by
  cases pending <;> cases routed <;> cases asks <;> grind

/-- Whose life it is does not change. -/
theorem request_step (step : l.Step m number share l') :
    l'.caller.request = l.caller.request ∧ l'.caller.listens = l.caller.listens := by
  cases step <;> constructor <;> grind

/-- A task that has finished stays so. -/
theorem finished_step (step : l.Step m number share l') (atEnd : l.phase = .finished) :
    l'.phase = .finished := by
  cases step <;> simp_all

theorem once_step (h : l.Sound) (step : l.Step m number share l') :
    .ask ∉ l'.errands.tail := by
  cases step with
  | submitted stage _ => simp [h.held (.inl stage)]
  | sent _ next | unsent _ next _ _ | unsubscribed _ _ next | forgotten _ next =>
    intro asks
    apply h.once
    rw [next]
    exact List.mem_of_mem_tail asks
  | expired | dropped =>
    intro asks
    simp only [sending] at asks
    split at asks
    · exact h.once asks
    · cases he : l.errands with
      | nil => simp [he] at asks
      | cons errand rest => exact h.once (by simpa [he] using asks)
  | finished => simp
  | _ => exact h.once

/-- A caller whose command was never put into the queue, or is still there, has nothing yet. -/
theorem Sound.clean (h : l.Sound) (fresh : l.caller.stage = .admitted ∨ .ask ∈ l.errands) :
    l.Untouched := by
  apply h.untouched
  rcases fresh with admitted | asks
  · exact .inl (.inl admitted)
  · exact .inr asks

theorem held_step (h : l.Sound) (step : l.Step m number share l') :
    l'.caller.IsAside → l'.errands = [] := by
  have held := h.held
  have genuine := h.genuine
  cases step with
  | resumed waits found =>
    have slot := Socket.outcome?_eq_some.1 found
    grind
  | expired _ _ stage _ => grind
  | dropped holding =>
    obtain ⟨_, success, stage, _⟩ := h.holds holding
    grind
  | _ => grind

theorem untouched_step (h : l.Sound) (step : l.Step m number share l') :
    l'.caller.IsAside ∨ .ask ∈ l'.errands → l'.Untouched := by
  have held := h.held
  have once := h.once
  have untouched := h.untouched
  have genuine := h.genuine
  cases step with
  | resumed waits found =>
    have slot := Socket.outcome?_eq_some.1 found
    grind
  | dropped holding =>
    obtain ⟨_, success, stage, _⟩ := h.holds holding
    grind
  | _ => grind

theorem unanswered_step (h : l.Sound) (step : l.Step m number share l') :
    l'.pending = true → l'.caller.answer = .empty := by
  have unanswered := h.unanswered
  cases step with
  | sent _ next | unsent _ next _ _ =>
    have clean := h.clean (.inr (by simp [next]))
    grind
  | _ => grind

theorem waits_step (h : l.Sound) (step : l.Step m number share l') :
    l'.caller.awaits = true → l'.caller.answer = .empty → .ask ∈ l'.errands ∨ l'.pending = true := by
  have waits := h.waits
  cases step with
  | unsubscribed _ _ next =>
    have gone := h.parted (.inl (by simp [next]))
    grind
  | forgotten _ next =>
    have gone := h.parted (.inr (by simp [next]))
    grind
  | _ => grind

theorem parted_step (h : l.Sound) (step : l.Step m number share l') :
    .unsubscribe ∈ l'.errands ∨ .forget ∈ l'.errands →
      l'.caller.awaits = false ∧ l'.caller.holds = false := by
  have parted := h.parted
  cases step with
  | submitted stage _ =>
    have none_yet := h.held (.inl stage)
    have holds := h.holds
    grind
  | expired _ _ stage _ => grind
  | dropped holding =>
    obtain ⟨_, success, stage, _⟩ := h.holds holding
    grind
  | _ => grind

theorem holds_step (h : l.Sound) (step : l.Step m number share l') :
    l'.caller.holds = true →
      l'.caller.listens = true ∧
        ∃ success, l'.caller.stage = .resolved (.ok success) ∧
          l'.caller.answer = .filled (.ok success) := by
  have holds := h.holds
  cases step with
  | @resumed outcome waits found =>
    -- Only one whose answer is a success holds a stream.
    have slot := Socket.outcome?_eq_some.1 found
    cases outcome with
    | ok success => grind
    | error error => grind
  | _ => grind

theorem route_step (h : l.Sound) (step : l.Step m number share l') :
    l'.Hopes → l'.phase ≠ .finished → l'.routed = true := by
  have holds := h.holds
  have route := h.route
  cases step with
  | submitted stage _ =>
    have clean := h.clean (.inl stage)
    grind
  | @resumed outcome waits found =>
    have slot := Socket.outcome?_eq_some.1 found
    cases outcome with
    | ok success => grind
    | error error => grind
  | unsent _ next _ _ =>
    have clean := h.clean (.inr (by simp [next]))
    grind
  -- A route that is removed before the end is that of a caller that neither waits for a stream nor
  -- holds one.
  | unsubscribed _ _ next =>
    have gone := h.parted (.inl (by simp [next]))
    grind
  | forgotten _ next =>
    have gone := h.parted (.inr (by simp [next]))
    grind
  | answered _ waiting _ _ =>
    have empty := h.unanswered waiting
    grind
  | rejected _ waiting _ _ _ =>
    have empty := h.unanswered waiting
    grind
  | _ => grind

theorem attached_step (h : l.Sound) (step : l.Step m number share l') :
    l'.routed = true → l'.caller.listens = true ∧ l'.caller.feed.attached = true := by
  have attached := h.attached
  cases step with
  | sent _ next =>
    have clean := h.clean (.inr (by simp [next]))
    grind
  | unsent _ next _ _ =>
    have clean := h.clean (.inr (by simp [next]))
    grind
  | _ => grind

theorem ended_step (h : l.Sound) (step : l.Step m number share l') :
    l'.phase = .finished →
      l'.errands = [] ∧ l'.pending = false ∧ l'.routed = false ∧
        (l'.Hopes → l'.caller.feed.attached = false) := by
  have ended := h.ended
  cases step with
  | @resumed outcome waits found =>
    have slot := Socket.outcome?_eq_some.1 found
    cases outcome with
    | ok success => grind
    | error error => grind
  | finished phase =>
    have route := h.route
    have unanswered := h.unanswered
    have holds := h.holds
    have waits := h.waits
    have untouched := h.untouched
    grind
  | _ => grind

theorem abandoned_step (h : l.Sound) (step : l.Step m number share l') :
    l'.caller.answer = .abandoned → l'.phase = .finished := by
  have abandoned := h.abandoned
  have unanswered := h.unanswered
  cases step with
  | forgotten phase next =>
    have gone := h.parted (.inr (by simp [next]))
    grind
  | _ => grind

theorem genuine_step (h : l.Sound) (step : l.Step m number share l') :
    l'.caller.answer ≠ .filled (.error .notConnected) := by
  have genuine := h.genuine
  cases step with
  | finished phase => grind
  | _ => grind

theorem sound_step (h : l.Sound) (step : l.Step m number share l') : l'.Sound :=
  ⟨held_step h step, once_step h step, untouched_step h step, unanswered_step h step,
    waits_step h step, parted_step h step, holds_step h step, route_step h step,
    attached_step h step, ended_step h step, abandoned_step h step, genuine_step h step⟩

end Life

theorem Lived.sound {number : Nat} {past : List (Moment Socket Socket.Action)} {l : Life}
    (lived : Lived number past l) : l.Sound := by
  induction lived with
  | born stage_eq _ =>
    constructor <;> grind [Life.born, Caller.start]
  | next _ step _ ih => exact Life.sound_step ih step

end Tendermint
