import Tendermint.Proofs.Socket.Effect

/-!
# Tendermint.Proofs.Socket.Tables

What the task makes of its tables, and what it writes to the socket, whatever identifiers the
callers choose.

* `handled?`, `sent`: the command that the task takes at a moment, and the request that it sends.
* `handled_step`: what a step is in which the task takes a command.
* `written_step`, `written_run`: the socket has what was sent, moment by moment.
* `Changes`, `changes_step`: what a step makes of the tables.
* `Changes.pending`, `Changes.routes`, `Changes.outstanding`: but for a request that is sent,
  entries and routes only go.
* `Changes.entry_kept`, `Changes.route_kept`: what takes an entry or a route away.
-/

namespace Tendermint

/-- A request that ends the subscription to a query on the node, under some identifier. -/
structure Request.Unsubscribes (request : Request) (id : RequestId) (query : String) : Prop where
  id_eq : request.id = id
  method_eq : request.method = "unsubscribe"
  params_eq : request.params = [("query", .string query)]
  query_eq : request.query? = some query

namespace Socket

theorem unsubscribes_unsubscription (id : RequestId) (query : String) :
    (unsubscription id query).Unsubscribes id query where
  id_eq := rfl
  method_eq := rfl
  params_eq := rfl
  query_eq := rfl

/-- The command that the task takes at a moment. -/
def handled? (m : Moment Socket Action) : Option SocketCommand :=
  match m.action with
  | .handleNext _ => m.before.queue.head?
  | _ => none

/-- What a command brings onto a socket that can be written to. -/
def requested (s : Socket) : SocketCommand → List Request
  | .call request _ => if s.router.isOutstanding request.id then [] else [request]
  | .listen request _ => if s.router.isOutstanding request.id then [] else [request]
  | .unsubscribe id => ((s.router.takeRoute id).1.map (unsubscription s.ids.take.1)).toList
  | _ => []

/-- The request that the task sends at a moment. -/
def sent (m : Moment Socket Action) : List Request :=
  match m.action with
  | .handleNext none => m.before.queue.head?.toList.flatMap (requested m.before)
  | _ => []

@[simp] theorem requested_commandFor (s : Socket) (n : Nat) (ask : Request × Bool) :
    s.requested (commandFor n ask) = if s.router.isOutstanding ask.1.id then [] else [ask.1] := by
  unfold commandFor
  split <;> rfl

theorem sent_of_handled {s : Socket} {command : SocketCommand} {rest : List SocketCommand}
    (queue : s.queue = command :: rest) : sent ⟨s, .handleNext none⟩ = s.requested command := by
  simp [sent, queue]

theorem handled?_of_queue {s : Socket} {command : SocketCommand} {rest : List SocketCommand}
    (queue : s.queue = command :: rest) (fault : Option NetworkFault) :
    handled? ⟨s, .handleNext fault⟩ = some command := by
  simp [handled?, queue]

theorem handled?_eq_some {m : Moment Socket Action} {command : SocketCommand}
    (handled : handled? m = some command) :
    ∃ fault rest, m.action = .handleNext fault ∧ m.before.queue = command :: rest := by
  obtain ⟨s, action⟩ := m
  cases action with
  | handleNext fault =>
    obtain ⟨rest, queue⟩ := List.head?_eq_some_iff.1 handled
    exact ⟨fault, rest, rfl, queue⟩
  | _ => cases handled

/-- No caller does the work of the task. -/
theorem idle_of_caller {s : Socket} {action : Action} {n : Nat} (actor : action.caller? = some n) :
    handled? ⟨s, action⟩ = none ∧ sent ⟨s, action⟩ = [] := by
  cases action <;> first | exact ⟨rfl, rfl⟩ | cases actor

/-- What a step is in which the task takes a command. -/
theorem handled_step {action : Action} {s t : Socket} {command : SocketCommand}
    (hs : s.step action = some t) (handled : handled? ⟨s, action⟩ = some command) :
    ∃ fault rest, action = .handleNext fault ∧ s.phase = .running ∧ s.queue = command :: rest ∧
      t = { s with queue := rest }.handle fault command := by
  cases Happens.of_step hs with
  | @handled fault other rest running queue =>
    rw [handled?_of_queue queue] at handled
    cases handled
    exact ⟨fault, rest, rfl, running, queue, rfl⟩
  | acts actor _ _ => simp [(idle_of_caller actor).1] at handled
  | _ => cases handled

/-- Whatever is sent is what the command of the moment brings onto the socket. -/
theorem handled_of_sent {m : Moment Socket Action} {request : Request} (sends : request ∈ sent m) :
    ∃ command, handled? m = some command ∧ request ∈ m.before.requested command := by
  obtain ⟨s, action⟩ := m
  cases action with
  | handleNext fault =>
    cases fault with
    | some fault => cases sends
    | none =>
      cases queue : s.queue with
      | nil => simp [sent, queue] at sends
      | cons command rest =>
        rw [sent_of_handled queue] at sends
        exact ⟨command, handled?_of_queue queue none, sends⟩
  | _ => cases sends

/-! ## Commands -/

/-- A request whose identifier is taken is refused, and nothing else happens. -/
theorem handle_taken {s : Socket} {n : Nat} {ask : Request × Bool} (fault : Option NetworkFault)
    (taken : s.router.isOutstanding ask.1.id = true) :
    s.handle fault (commandFor n ask) = s.refuse (.duplicateId ask.1.id) n := by
  obtain ⟨request, listens⟩ := ask
  cases listens <;> simp [commandFor, handle, taken]

/-- An `unsubscribe` takes the route away. If that had a query, an `unsubscribe` request under the
next identifier is sent, or the task leaves. -/
theorem unsubscribe_cases (fault : Option NetworkFault) (id : RequestId) (s : Socket) :
    ((s.handle fault (.unsubscribe id)).router =
          { s.router with routes := s.router.routes.erase id } ∧
        (s.handle fault (.unsubscribe id)).written = s.written ∧
        ((s.router.takeRoute id).1 = none ∨
          fault ≠ none ∧ (s.handle fault (.unsubscribe id)).phase = .leaving)) ∨
      ∃ query, (s.router.takeRoute id).1 = some query ∧ fault = none ∧
        (s.handle fault (.unsubscribe id)).router =
          ⟨(s.router.pending.keep (Router.isFresh s.now s.timeout)).insert s.ids.take.1
            (.ignored s.now), s.router.routes.erase id⟩ ∧
        (s.handle fault (.unsubscribe id)).written =
          s.written ++ [unsubscription s.ids.take.1 query] ∧
        (s.handle fault (.unsubscribe id)).phase = s.phase := by
  let parted := { s with router := { s.router with routes := s.router.routes.erase id } }
  let told := parted.deliver (Router.dropRoute (s.router.routes.get? id))
  have rest : told = { parted with callers := told.callers } := deliver_eq _ _
  have change : s.withRouter (s.router.takeRoute id).2 = told := rfl
  simp only [handle, change]
  cases query : (s.router.takeRoute id).1 with
  | none => exact .inl ⟨by rw [rest], by rw [rest], .inl rfl⟩
  | some q =>
    cases fault with
    | some fault =>
      left
      simp only [takeId, leave, Option.isSome_some, if_true]
      exact ⟨by rw [rest], by rw [rest], .inr ⟨Option.some_ne_none _, trivial⟩⟩
    | none =>
      right
      refine ⟨q, rfl, rfl, ?_, ?_, ?_⟩
      all_goals simp only [takeId, write, withRouter, Option.isSome_none, Bool.false_eq_true, if_false]
      all_goals rw [rest, deliver_eq]
      rfl

/-! ## What is written -/

theorem handle_written (fault : Option NetworkFault) (command : SocketCommand) (s : Socket) :
    (s.handle fault command).written =
      s.written ++ if fault = none then s.requested command else [] := by
  have refused : ∀ error n, (s.refuse error n).written = s.written := by
    intro error n
    rw [refuse, deliver_eq]
  cases command with
  | call request n | listen request n =>
    simp only [handle, requested]
    split
    · simp [refused]
    · cases fault with
      | some fault => simp [failToSend, leave, refused]
      | none =>
        rw [withRouter, deliver_eq]
        rfl
  | unsubscribe id =>
    obtain ⟨-, written, noQuery | ⟨faulty, -⟩⟩ | ⟨query, found, rfl, -, written, -⟩ :=
      unsubscribe_cases fault id s
    · simp [written, requested, noQuery]
    · simp [written, faulty]
    · simp [written, requested, found]
  | forget id =>
    simp only [handle, withRouter, requested]
    rw [deliver_eq]
    simp
  | disconnect => simp [handle, leave, requested]

/-- A step adds to the socket what is sent in it. -/
theorem written_step {action : Action} {s t : Socket} (hs : s.step action = some t) :
    t.written = s.written ++ sent ⟨s, action⟩ := by
  cases Happens.of_step hs with
  | @handled fault command rest _ queue =>
    rw [handle_written]
    cases fault with
    | none => rw [sent_of_handled queue, if_pos rfl]; rfl
    | some fault => simp [sent]
  | received =>
    rw [receive_eq]
    split
    · rw [withRouter, deliver_eq]
      simp [sent]
    · simp [sent]
  | finished =>
    rw [finish_eq, deliver_eq]
    simp [sent]
  | asked =>
    rw [enqueue_eq]
    simp [sent]
  | acts actor _ acts =>
    obtain ⟨commands, f, rfl, -, -⟩ := callerStep_eq acts
    simp [modifyCaller, (idle_of_caller actor).2]
  | _ => simp [sent, beginWith, leave]

theorem written_run {past : List (Moment Socket Action)} {s t : Socket} (run : History step s past t) :
    t.written = s.written ++ past.flatMap sent := by
  induction run with
  | start => rw [List.flatMap_nil, List.append_nil]
  | next _ hs ih =>
    rw [written_step hs, ih, List.flatMap_append, List.flatMap_singleton, List.append_assoc]

/-- An `unsubscribe` with a query sends its request, or the task leaves. -/
theorem sent_unsubscription {action : Action} {s t : Socket} {id : RequestId} {query : String}
    (hs : s.step action = some t) (handled : handled? ⟨s, action⟩ = some (.unsubscribe id))
    (found : (s.router.takeRoute id).1 = some query) :
    sent ⟨s, action⟩ = [unsubscription s.ids.take.1 query] ∧ t.phase = .running ∨
      (∃ fault, action = .handleNext (some fault)) ∧ t.phase = .leaving ∧ t.written = s.written := by
  obtain ⟨fault, rest, rfl, running, queue, rfl⟩ := handled_step hs handled
  obtain ⟨-, written, noQuery | ⟨faulty, left⟩⟩ | ⟨_, -, rfl, -, -, phase⟩ :=
    unsubscribe_cases fault id { s with queue := rest }
  · cases noQuery.symm.trans found
  · obtain ⟨fault, rfl⟩ := Option.ne_none_iff_exists'.1 faulty
    exact .inr ⟨⟨fault, rfl⟩, left, written⟩
  · exact .inl ⟨by simp [sent_of_handled queue, requested, found], phase.trans running⟩

/-! ## What becomes of the tables -/

/-- Whatever ends a subscription leaves no route. -/
theorem released {action : Action} {s t : Socket} {id : RequestId} (hs : s.step action = some t)
    (handled : handled? ⟨s, action⟩ = some (.unsubscribe id) ∨
      handled? ⟨s, action⟩ = some (.forget id)) :
    t.router.routes.get? id = none := by
  have erased : (s.router.routes.erase id).get? id = none := by rw [Table.get?_erase, if_pos rfl]
  obtain unsubscribes | forgets := handled
  · obtain ⟨fault, rest, -, -, -, rfl⟩ := handled_step hs unsubscribes
    obtain ⟨router, -⟩ | ⟨_, -, -, router, -⟩ :=
      unsubscribe_cases fault id { s with queue := rest }
    · rw [router]
      exact erased
    · rw [router]
      exact erased
  · obtain ⟨fault, rest, -, -, -, rfl⟩ := handled_step hs forgets
    simp only [handle, withRouter, Router.forget]
    rw [deliver_eq]
    exact erased

/-- What a moment makes of the tables. -/
inductive Changes (m : Moment Socket Action) : Router → Prop where
  | kept : Changes m m.before.router
  | noted {n : Nat} {ask : Request × Bool} (handled : handled? m = some (commandFor n ask))
      (free : m.before.router.isOutstanding ask.1.id = false) (sends : sent m = [ask.1]) :
      Changes m (noted n ask m.before.router)
  | parted {id : RequestId} (handled : handled? m = some (.unsubscribe id)) :
      Changes m { m.before.router with routes := m.before.router.routes.erase id }
  | unsubscribed {id : RequestId} {query : String} (handled : handled? m = some (.unsubscribe id))
      (found : (m.before.router.takeRoute id).1 = some query)
      (sends : sent m = [unsubscription m.before.ids.take.1 query]) :
      Changes m
        ⟨(m.before.router.pending.keep (Router.isFresh m.before.now m.before.timeout)).insert
          m.before.ids.take.1 (.ignored m.before.now), m.before.router.routes.erase id⟩
  | forgotten {id : RequestId} (handled : handled? m = some (.forget id)) :
      Changes m ⟨m.before.router.pending.erase id, m.before.router.routes.erase id⟩
  | answered {name : RequestId} {json : Json} {entry : Pending}
      (comes : incoming? m = some (name, json))
      (found : m.before.router.pending.get? name = some entry) :
      Changes m
        ⟨m.before.router.pending.erase name,
          if refuses (Reply.outcomeOf (Reply.ofJson json)) entry then
            m.before.router.routes.erase name
          else m.before.router.routes⟩
  | ended (action : m.action = .finish) : Changes m .empty

theorem changes_handle {s : Socket} {fault : Option NetworkFault} {command : SocketCommand}
    {rest : List SocketCommand} (queue : s.queue = command :: rest) :
    Changes ⟨s, .handleNext fault⟩ ({ s with queue := rest }.handle fault command).router := by
  have handled := handled?_of_queue queue fault
  have refused : ∀ error n, ({ s with queue := rest }.refuse error n).router = s.router := by
    intro error n
    rw [refuse, deliver_eq]
  have asked : ∀ n ask, command = commandFor n ask →
      Changes ⟨s, .handleNext fault⟩ ({ s with queue := rest }.handle fault command).router := by
    rintro n ask rfl
    cases free : s.router.isOutstanding ask.1.id with
    | true =>
      rw [handle_taken (s := { s with queue := rest }) fault free, refused]
      exact .kept
    | false =>
      rw [handle_ask (s := { s with queue := rest }) fault free]
      cases fault with
      | some fault =>
        simp only [failToSend, leave, refused]
        exact .kept
      | none => exact .noted handled free (by simp [sent_of_handled queue, free])
  cases command with
  | call request n => exact asked n (request, false) rfl
  | listen request n => exact asked n (request, true) rfl
  | unsubscribe id =>
    obtain ⟨router, -, -⟩ | ⟨query, found, rfl, router, -⟩ :=
      unsubscribe_cases fault id { s with queue := rest }
    · rw [router]
      exact .parted handled
    · rw [router]
      have given : (s.router.takeRoute id).1 = some query := found
      exact .unsubscribed handled given (by simp [sent_of_handled queue, requested, given])
  | forget id =>
    simp only [handle, withRouter, Router.forget]
    rw [deliver_eq]
    exact .forgotten handled
  | disconnect => exact .kept

theorem changes_step {action : Action} {s t : Socket} (hs : s.step action = some t) :
    Changes ⟨s, action⟩ t.router := by
  cases Happens.of_step hs with
  | handled _ queue => exact changes_handle queue
  | @received frame _ =>
    rw [receive_eq]
    cases comes : incoming? ⟨s, .receive frame⟩ with
    | none => exact .kept
    | some arrival =>
      obtain ⟨name, json⟩ := arrival
      simp only [withRouter]
      rw [deliver_eq]
      rw [Router.route_tables, Router.isRefused, Router.settle]
      cases found : s.router.pending.get? name with
      | none =>
        rw [Table.erase_of_get?_eq_none found]
        exact .kept
      | some entry => exact .answered comes found
  | finished =>
    rw [finish_eq, deliver_eq]
    exact .ended rfl
  | asked =>
    rw [enqueue_eq]
    exact .kept
  | acts _ _ acts =>
    obtain ⟨commands, f, rfl, -, -⟩ := callerStep_eq acts
    exact .kept
  | _ => exact .kept

section Changes

variable {m : Moment Socket Action} {router : Router}

/-- But for the request that is sent, entries only go. -/
theorem Changes.pending (h : Changes m router) (id : RequestId) :
    router.pending.get? id = none ∨ router.pending.get? id = m.before.router.pending.get? id ∨
      id ∈ (sent m).map Request.id := by
  cases h with
  | kept | parted => exact .inr (.inl rfl)
  | @noted n ask _ _ sends =>
    by_cases own : id = ask.1.id
    · exact .inr (.inr (by simp [sends, own]))
    · exact .inr (.inl (by simp [Socket.noted, Table.get?_insert, own]))
  | unsubscribed _ _ sends =>
    by_cases own : id = m.before.ids.take.1
    · exact .inr (.inr (by simp [sends, unsubscription, own]))
    · simp only [Table.get?_insert, if_neg own, Table.get?_keep]
      cases found : m.before.router.pending.get? id with
      | none => exact .inl rfl
      | some entry => cases fresh : Router.isFresh m.before.now m.before.timeout entry <;> simp [fresh]
  | @forgotten other | @answered other =>
    by_cases own : id = other <;> simp [Table.get?_erase, own]
  | ended => exact .inl rfl

/-- But for the request that is sent, routes only go. -/
theorem Changes.routes (h : Changes m router) (id : RequestId) :
    router.routes.get? id = none ∨ router.routes.get? id = m.before.router.routes.get? id ∨
      id ∈ (sent m).map Request.id := by
  have erased : ∀ other, (m.before.router.routes.erase other).get? id = none ∨
      (m.before.router.routes.erase other).get? id = m.before.router.routes.get? id := by
    intro other
    by_cases own : id = other <;> simp [Table.get?_erase, own]
  cases h with
  | kept => exact .inr (.inl rfl)
  | @noted n ask _ _ sends =>
    by_cases own : id = ask.1.id
    · exact .inr (.inr (by simp [sends, own]))
    · right
      left
      simp only [Socket.noted]
      split
      · rw [Table.get?_insert, if_neg own]
      · rfl
  | @parted other | @unsubscribed other | @forgotten other =>
    exact (erased other).imp_right .inl
  | @answered other _ _ _ _ =>
    simp only
    split
    · exact (erased other).imp_right .inl
    · exact .inr (.inl rfl)
  | ended => exact .inl rfl

/-- Whatever is outstanding after a step was so before it, or its request was sent. -/
theorem Changes.outstanding (h : Changes m router) {id : RequestId}
    (waits : router.isOutstanding id = true) :
    m.before.router.isOutstanding id = true ∨ id ∈ (sent m).map Request.id := by
  by_contra! ⟨free, unsent⟩
  rw [ne_eq, Bool.not_eq_true, isOutstanding_eq_false] at free
  have entry : router.pending.get? id = none := by
    obtain gone | same | sends := h.pending id
    · exact gone
    · rw [same, free.1]
    · exact absurd sends unsent
  have route : router.routes.get? id = none := by
    obtain gone | same | sends := h.routes id
    · exact gone
    · rw [same, free.2]
    · exact absurd sends unsent
  rw [isOutstanding_eq_false.2 ⟨entry, route⟩] at waits
  cases waits

/-- An entry goes with its answer, with the end of the task or with a `forget`, but for what an
`unsubscribe` puts in its place. -/
theorem Changes.entry_kept (h : Changes m router) {id : RequestId} {entry : Pending}
    (found : m.before.router.pending.get? id = some entry) :
    router.pending.get? id = some entry ∨ (∃ json, incoming? m = some (id, json)) ∨
      handled? m = some (.forget id) ∨
      (∃ other, handled? m = some (.unsubscribe other) ∧
        (id = m.before.ids.take.1 ∨ ∃ sent, entry = .ignored sent)) ∨
      m.action = .finish := by
  cases h with
  | kept | parted => exact .inl found
  | @noted k ask _ free =>
    left
    have apart : id ≠ ask.1.id := by
      rintro rfl
      cases (isOutstanding_eq_false.1 free).1.symm.trans found
    rw [Socket.noted, Table.get?_insert, if_neg apart, found]
  | @unsubscribed other _ handled =>
    by_cases own : id = m.before.ids.take.1
    · exact .inr (.inr (.inr (.inl ⟨other, handled, .inl own⟩)))
    · cases entry with
      | ignored sent => exact .inr (.inr (.inr (.inl ⟨other, handled, .inr ⟨sent, rfl⟩⟩)))
      | _ =>
        left
        rw [Table.get?_insert, if_neg own, Table.get?_keep, found]
        rfl
  | @forgotten other handled =>
    by_cases own : id = other
    · exact .inr (.inr (.inl (own ▸ handled)))
    · exact .inl (by rw [Table.get?_erase, if_neg own, found])
  | @answered other json _ comes =>
    by_cases own : id = other
    · exact .inr (.inl ⟨json, own ▸ comes⟩)
    · exact .inl (by rw [Table.get?_erase, if_neg own, found])
  | ended action => exact .inr (.inr (.inr (.inr action)))

/-- A route goes with a refusal of its subscription, with the end of the task, or because it is to
be ended or forgotten. -/
theorem Changes.route_kept (h : Changes m router) {id : RequestId} {route : Route}
    (found : m.before.router.routes.get? id = some route) :
    router.routes.get? id = some route ∨
      (∃ json, incoming? m = some (id, json) ∧
        Router.isFailure (Reply.outcomeOf (Reply.ofJson json)) = true) ∨
      handled? m = some (.forget id) ∨ handled? m = some (.unsubscribe id) ∨
      m.action = .finish := by
  have erased : ∀ {other : RequestId}, id ≠ other →
      (m.before.router.routes.erase other).get? id = some route := by
    intro other apart
    rw [Table.get?_erase, if_neg apart, found]
  cases h with
  | kept => exact .inl found
  | @noted k ask _ free =>
    left
    have apart : id ≠ ask.1.id := by
      rintro rfl
      cases (isOutstanding_eq_false.1 free).2.symm.trans found
    simp only [Socket.noted]
    split
    · rw [Table.get?_insert, if_neg apart, found]
    · exact found
  | @parted other handled | @unsubscribed other _ handled =>
    by_cases own : id = other
    · exact .inr (.inr (.inr (.inl (own ▸ handled))))
    · exact .inl (erased own)
  | @forgotten other handled =>
    by_cases own : id = other
    · exact .inr (.inr (.inl (own ▸ handled)))
    · exact .inl (erased own)
  | @answered other json entry comes =>
    by_cases own : id = other
    · subst own
      cases entry with
      | subscribe k =>
        cases failed : Router.isFailure (Reply.outcomeOf (Reply.ofJson json)) with
        | true => exact .inr (.inl ⟨json, comes, failed⟩)
        | false => exact .inl (by simp [refuses, failed, found])
      | _ => exact .inl found
    · left
      simp only
      split
      · exact erased own
      · exact found
  | ended action => exact .inr (.inr (.inr (.inr action)))

end Changes

end Socket

end Tendermint
