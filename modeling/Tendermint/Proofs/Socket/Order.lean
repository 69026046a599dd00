import Tendermint.Proofs.Socket.Effect

/-!
# Tendermint.Proofs.Socket.Order

Whose a command or an entry of a table is. As long as no identifier is taken into use twice, an
identifier names one caller, and the commands and the entries under it are those of this caller.

* `used`, `Distinct`: the identifiers that a run takes into use.
* `Ordered`: everything under an identifier is one caller's.
* `ordered_step`: so it stays, whatever happens without a second use.
-/

namespace Tendermint

namespace Socket

/-- The identifiers that a moment takes into use: that of a caller that comes, and that of an
`unsubscribe` request. -/
def used (m : Moment Socket Action) : List RequestId :=
  match m.action with
  | .begin _ request => [request.id]
  | .beginNext _ _ _ => [m.before.ids.take.1]
  | .handleNext _ =>
    match m.before.queue.head? with
    | some (.unsubscribe id) =>
      if (m.before.router.takeRoute id).1.isSome then [m.before.ids.take.1] else []
    | _ => []
  | _ => []

theorem used_unsubscribe {s : Socket} {fault : Option NetworkFault} {id : RequestId}
    {rest : List SocketCommand} (queue : s.queue = .unsubscribe id :: rest)
    (query : (s.router.takeRoute id).1.isSome = true) :
    used ⟨s, .handleNext fault⟩ = [s.ids.take.1] := by
  simp only [used, queue, List.head?_cons]
  rw [if_pos query]

/-- No identifier is taken into use twice. -/
def Distinct (past : List (Moment Socket Action)) : Prop := (past.flatMap used).Nodup

instance (past : List (Moment Socket Action)) : Decidable (Distinct past) :=
  inferInstanceAs (Decidable (List.Nodup _))

theorem Distinct.of_append {past later : List (Moment Socket Action)}
    (h : Distinct (past ++ later)) : Distinct past := by
  rw [Distinct, List.flatMap_append] at h
  exact (List.nodup_append.1 h).1

theorem Distinct.of_cons {past later : List (Moment Socket Action)} {m : Moment Socket Action}
    (h : Distinct (past ++ m :: later)) : Distinct ((past ++ [m]) ++ later) := by
  rwa [List.append_assoc]

/-- Whether an identifier occurs at a caller, in the table of requests or among what was
written. -/
def Knows (s : Socket) (id : RequestId) : Prop :=
  (∃ ask ∈ s.asked, ask.1.id = id) ∨ s.router.pending.contains id = true ∨
    ∃ request ∈ s.written, request.id = id

/-- Everything under an identifier is one caller's, and nothing is under one that was not taken
into use. -/
structure Ordered (past : List (Moment Socket Action)) (s : Socket) : Prop where
  names : (s.asked.map fun ask => ask.1.id).Nodup
  queued : ∀ command ∈ s.queue, command = .disconnect ∨
    ∃ n ask, s.asked[n]? = some ask ∧ (command = commandFor n ask ∨
      command = .unsubscribe ask.1.id ∨ command = .forget ask.1.id)
  pending : ∀ id entry, s.router.pending.get? id = some entry →
    (∃ n ask, s.asked[n]? = some ask ∧ ask.1.id = id ∧ entry = entryFor n ask) ∨
      (∃ sent, entry = .ignored sent) ∧ ∀ ask ∈ s.asked, ask.1.id ≠ id
  routes : ∀ id route, s.router.routes.get? id = some route →
    ∃ ask, s.asked[route.caller]? = some ask ∧ ask.1.id = id ∧ ask.2 = true
  known : ∀ id, s.Knows id → id ∈ past.flatMap used

variable {past : List (Moment Socket Action)} {s t : Socket}

theorem ordered_opened (timeout : Duration) (ids : RequestId.Counter) :
    Ordered [] (opened timeout ids) where
  names := List.nodup_nil
  queued := by simp [opened]
  pending := by simp [opened, Router.empty]
  routes := by simp [opened, Router.empty]
  known := by simp [Knows, asked, opened, Router.empty, Table.contains]

/-- An identifier names one caller. -/
theorem Ordered.same (h : Ordered past s) {n k : Nat} {a b : Request × Bool}
    (ha : s.asked[n]? = some a) (hb : s.asked[k]? = some b) (id : a.1.id = b.1.id) : n = k := by
  have left : (s.asked.map fun ask => ask.1.id)[n]? = some a.1.id := by simp [ha]
  have right : (s.asked.map fun ask => ask.1.id)[k]? = some a.1.id := by simp [hb, id]
  have small : n < (s.asked.map fun ask => ask.1.id).length := by
    obtain ⟨hn, -⟩ := List.getElem?_eq_some_iff.1 ha
    simpa using hn
  exact (List.getElem?_inj small h.names).1 (left.trans right.symm)

/-- A `call` or a `listen` in the queue is the command of its caller. -/
theorem Ordered.asker (h : Ordered past s) {command : SocketCommand} (hc : command ∈ s.queue)
    {n : Nat} (hn : asker? command = some n) :
    ∃ ask, s.asked[n]? = some ask ∧ command = commandFor n ask := by
  obtain rfl | ⟨k, ask, hask, rfl | rfl | rfl⟩ := h.queued command hc
  · cases hn
  · rw [asker?_commandFor] at hn
    cases hn
    exact ⟨ask, hask, rfl⟩
  · cases hn
  · cases hn

/-- Things stay ordered when commands, entries and routes go and nothing comes. -/
theorem Ordered.of_less (h : Ordered past s) (asked : t.asked = s.asked) (queue : t.queue ⊆ s.queue)
    (pending : ∀ id entry, t.router.pending.get? id = some entry →
      s.router.pending.get? id = some entry)
    (routes : ∀ id route, t.router.routes.get? id = some route →
      s.router.routes.get? id = some route)
    (written : t.written = s.written) : Ordered past t where
  names := asked ▸ h.names
  queued command hc := asked ▸ h.queued command (queue hc)
  pending id entry he := asked ▸ h.pending id entry (pending id entry he)
  routes id route hr := asked ▸ h.routes id route (routes id route hr)
  known id hid := by
    refine h.known id ?_
    obtain hid | hid | hid := hid
    · exact .inl (asked ▸ hid)
    · obtain ⟨entry, he⟩ := Option.isSome_iff_exists.1 hid
      exact .inr (.inl (by simp [Table.contains, pending id entry he]))
    · exact .inr (.inr (written ▸ hid))

theorem Ordered.of_rest (h : Ordered past s) {command : SocketCommand} {rest : List SocketCommand}
    (queue : s.queue = command :: rest) : Ordered past { s with queue := rest } :=
  h.of_less rfl (queue ▸ List.subset_cons_self _ _) (fun _ _ he => he) (fun _ _ hr => hr) rfl

theorem Ordered.deliver (h : Ordered past s) (ds : List Delivery) : Ordered past (s.deliver ds) := by
  refine h.of_less (asked_deliver ds s) ?_ ?_ ?_ ?_ <;> rw [deliver_eq]
  · exact fun _ hc => hc
  · exact fun _ _ he => he
  · exact fun _ _ hr => hr

theorem Ordered.erase (h : Ordered past s) (id : RequestId) :
    Ordered past { s with router := { s.router with pending := s.router.pending.erase id } } :=
  h.of_less rfl (fun _ hc => hc) (fun _ _ he => Table.get?_of_erase he) (fun _ _ hr => hr) rfl

theorem Ordered.eraseRoute (h : Ordered past s) (id : RequestId) :
    Ordered past { s with router := { s.router with routes := s.router.routes.erase id } } :=
  h.of_less rfl (fun _ hc => hc) (fun _ _ he => he) (fun _ _ hr => Table.get?_of_erase hr) rfl

theorem Ordered.later (h : Ordered past s) (m : Moment Socket Action) : Ordered (past ++ [m]) s where
  names := h.names
  queued := h.queued
  pending := h.pending
  routes := h.routes
  known id hid := by
    rw [List.flatMap_append]
    exact List.mem_append_left _ (h.known id hid)

/-- What is used at a moment was not known before it. -/
theorem Ordered.fresh (h : Ordered past s) {action : Action}
    (distinct : Distinct (past ++ [⟨s, action⟩])) {id : RequestId}
    (taken : id ∈ used ⟨s, action⟩) : ¬ s.Knows id := by
  intro knows
  rw [Distinct, List.flatMap_append, List.nodup_append] at distinct
  exact distinct.2.2 id (h.known id knows) id (by simpa using taken) rfl

/-- The request that ends a subscription is under an identifier that was not known. -/
theorem Ordered.fresh_unsubscribe (h : Ordered past s) {fault : Option NetworkFault}
    (distinct : Distinct (past ++ [⟨s, .handleNext fault⟩])) {id : RequestId}
    {rest : List SocketCommand} (queue : s.queue = .unsubscribe id :: rest) {query : String}
    (found : (s.router.takeRoute id).1 = some query) : ¬ s.Knows s.ids.take.1 := by
  have taken : used ⟨s, .handleNext fault⟩ = [s.ids.take.1] :=
    used_unsubscribe queue (by rw [found, Option.isSome_some])
  exact h.fresh distinct (by simp [taken])

/-- Nothing is outstanding under an identifier that was not taken into use. -/
theorem Ordered.free (h : Ordered past s) {id : RequestId} (unknown : ¬ s.Knows id) :
    s.router.isOutstanding id = false := by
  rw [isOutstanding_eq_false]
  constructor
  · by_contra found
    exact unknown (.inr (.inl (Option.isSome_iff_ne_none.2 found)))
  · by_contra found
    obtain ⟨route, found⟩ := Option.ne_none_iff_exists'.1 found
    obtain ⟨ask, hask, hid, -⟩ := h.routes _ _ found
    exact unknown (.inl ⟨ask, List.mem_of_getElem? hask, hid⟩)

/-! ## One action at a time -/

theorem ordered_callerStep (h : Ordered past s) {n : Nat} {c : Caller} {action : Action}
    (hc : s.callers[n]? = some c) (hs : s.callerStep n c action = some t) : Ordered past t := by
  obtain ⟨commands, f, rfl, own, keeps⟩ := callerStep_eq hs
  have asked := asked_modifyCaller { s with queue := s.queue ++ commands } n keeps
  have less : Ordered past
      { { s with queue := s.queue ++ commands }.modifyCaller n f with queue := s.queue } :=
    h.of_less asked (fun _ hc => hc) (fun _ _ he => he) (fun _ _ hr => hr) rfl
  refine { less with queued := ?_ }
  intro command hcommand
  obtain old | new := List.mem_append.1 hcommand
  · exact less.queued command old
  · exact .inr ⟨n, c.asked, asked ▸ getElem?_asked hc, own command new⟩

theorem asked_beginWith (listens : Bool) (request : Request) (s : Socket) :
    (s.beginWith listens request).asked = s.asked ++ [(request, listens)] := by
  simp [beginWith, asked, Caller.start, Caller.asked]

theorem ordered_beginWith (h : Ordered past s) {m : Moment Socket Action} {listens : Bool}
    {request : Request} (new : ¬ s.Knows request.id) (taken : used m = [request.id])
    (ids : RequestId.Counter) :
    Ordered (past ++ [m]) ({ s with ids }.beginWith listens request) := by
  have asked := asked_beginWith listens request { s with ids }
  change _ = s.asked ++ _ at asked
  have found : ∀ {n : Nat} {ask : Request × Bool}, s.asked[n]? = some ask →
      ({ s with ids }.beginWith listens request).asked[n]? = some ask := by
    intro n ask hn
    obtain ⟨small, -⟩ := List.getElem?_eq_some_iff.1 hn
    rw [asked, List.getElem?_append_left small, hn]
  constructor
  · rw [asked, List.map_append, List.nodup_append]
    refine ⟨h.names, by simp, ?_⟩
    intro id hid other hother
    obtain ⟨ask, hask, rfl⟩ := List.mem_map.1 hid
    simp only [List.map_cons, List.map_nil, List.mem_singleton] at hother
    rintro rfl
    exact new (.inl ⟨ask, hask, hother⟩)
  · intro command hc
    obtain rfl | ⟨n, ask, hask, own⟩ := h.queued command hc
    · exact .inl rfl
    · exact .inr ⟨n, ask, found hask, own⟩
  · intro id entry he
    obtain ⟨n, ask, hask, hid, hentry⟩ | ⟨ignored, others⟩ := h.pending id entry he
    · exact .inl ⟨n, ask, found hask, hid, hentry⟩
    · refine .inr ⟨ignored, ?_⟩
      intro ask hask
      rw [asked, List.mem_append, List.mem_singleton] at hask
      obtain hask | rfl := hask
      · exact others ask hask
      · rintro rfl
        have found : s.router.pending.get? request.id = some entry := he
        exact new (.inr (.inl (by simp [Table.contains, found])))
  · intro id route hr
    obtain ⟨ask, hask, hid, hlistens⟩ := h.routes id route hr
    exact ⟨ask, found hask, hid, hlistens⟩
  · intro id hid
    rw [List.flatMap_append, List.mem_append]
    obtain ⟨ask, hask, rfl⟩ | hid | hid := hid
    · rw [asked, List.mem_append, List.mem_singleton] at hask
      obtain hask | rfl := hask
      · exact .inl (h.known _ (.inl ⟨ask, hask, rfl⟩))
      · exact .inr (by simp [taken])
    · exact .inl (h.known id (.inr (.inl hid)))
    · exact .inl (h.known id (.inr (.inr hid)))

theorem ordered_ask (h : Ordered past s) {n : Nat} {ask : Request × Bool}
    (hask : s.asked[n]? = some ask) (fault : Option NetworkFault)
    (free : s.router.isOutstanding ask.1.id = false) :
    Ordered past (s.handle fault (commandFor n ask)) := by
  rw [handle_ask fault free]
  cases fault with
  | some fault =>
    exact (h.deliver _).of_less rfl (fun _ hc => hc) (fun _ _ he => he) (fun _ _ hr => hr) rfl
  | none =>
    refine ⟨h.names, h.queued, ?_, ?_, ?_⟩
    · intro id entry he
      simp only [noted, Table.get?_insert] at he
      split at he
      · rename_i hid
        cases he
        exact .inl ⟨n, ask, hask, hid.symm, rfl⟩
      · exact h.pending id entry he
    · intro id route hr
      simp only [noted] at hr
      split at hr
      · rename_i listens
        rw [Table.get?_insert] at hr
        split at hr
        · rename_i hid
          cases hr
          exact ⟨ask, hask, hid.symm, listens⟩
        · exact h.routes id route hr
      · exact h.routes id route hr
    · intro id hid
      apply h.known
      obtain hid | hid | ⟨request, hrequest, hid⟩ := hid
      · exact .inl hid
      · by_cases own : id = ask.1.id
        · exact .inl ⟨ask, List.mem_of_getElem? hask, own.symm⟩
        · simp only [noted, Table.contains, Table.get?_insert, if_neg own] at hid
          exact .inr (.inl hid)
      · obtain hrequest | hrequest := List.mem_append.1 hrequest
        · exact .inr (.inr ⟨request, hrequest, hid⟩)
        · rw [List.mem_singleton.1 hrequest] at hid
          exact .inl ⟨ask, List.mem_of_getElem? hask, hid⟩

theorem ordered_unsubscribe (h : Ordered past s) {m : Moment Socket Action}
    {fault : Option NetworkFault} {id : RequestId}
    (new : ∀ query, (s.router.takeRoute id).1 = some query →
      ¬ s.Knows s.ids.take.1 ∧ used m = [s.ids.take.1]) :
    Ordered (past ++ [m]) (s.handle fault (.unsubscribe id)) := by
  have unused : ∀ query, (s.router.takeRoute id).1 = some query →
      s.router.pending.get? s.ids.take.1 = none := by
    intro query hq
    by_contra found
    exact (new query hq).1 (.inr (.inl (Option.isSome_iff_ne_none.2 found)))
  obtain ⟨callers, queue, routes, -, kept | ⟨query, hq, pending, written⟩⟩ :=
    handle_unsubscribe unused (rfl : s.handle fault (.unsubscribe id) = _)
  all_goals
    have asked : (s.handle fault (.unsubscribe id)).asked = s.asked := by
      rw [asked, callers]
      exact asked_deliver _ s
  · refine ((h.eraseRoute id).of_less asked ?_ ?_ ?_ kept.2).later m
    · rw [queue]
      exact fun _ hc => hc
    · rw [kept.1]
      exact fun _ _ he => he
    · rw [routes]
      exact fun _ _ hr => hr
  · obtain ⟨fresh, taken⟩ := new query hq
    have less := (h.eraseRoute id).later m
    refine ⟨asked ▸ less.names, ?_, ?_, ?_, ?_⟩
    · rw [queue, asked]
      exact less.queued
    · intro other entry he
      rw [pending, Table.get?_insert] at he
      rw [asked]
      split at he
      · rename_i own
        cases he
        refine .inr ⟨⟨_, rfl⟩, fun ask hask hid => fresh (.inl ⟨ask, hask, hid.trans own⟩)⟩
      · exact less.pending other entry (Table.get?_of_keep he)
    · rw [routes, asked]
      exact less.routes
    · intro other hid
      by_cases own : other = s.ids.take.1
      · rw [List.flatMap_append, own]
        exact List.mem_append_right _ (by simp [taken])
      · refine less.known other ?_
        obtain hid | hid | ⟨request, hrequest, hid⟩ := hid
        · exact .inl (asked ▸ hid)
        · rw [Table.contains, pending, Table.get?_insert, if_neg own] at hid
          obtain ⟨entry, he⟩ := Option.isSome_iff_exists.1 hid
          exact .inr (.inl (Option.isSome_iff_exists.2 ⟨entry, Table.get?_of_keep he⟩))
        · rw [written, List.mem_append, List.mem_singleton] at hrequest
          obtain hrequest | rfl := hrequest
          · exact .inr (.inr ⟨request, hrequest, hid⟩)
          · exact absurd hid.symm own

theorem ordered_receive (h : Ordered past s) (frame : SocketFrame) :
    Ordered past (s.receive frame) := by
  rw [receive_eq]
  split
  · rename_i name json _
    rw [withRouter, Router.route_tables]
    refine Ordered.deliver ?_ _
    have taken := h.erase name
    cases refused : s.router.isRefused name json with
    | true => exact taken.eraseRoute name
    | false => exact taken
  · exact h

/-- What a step keeps in order, if the identifier of the command that is handled is free. -/
theorem ordered_step (h : Ordered past s) {action : Action}
    (distinct : Distinct (past ++ [⟨s, action⟩]))
    (free : ∀ n ask rest, s.queue = commandFor n ask :: rest →
      s.router.isOutstanding ask.1.id = false)
    (hs : s.step action = some t) : Ordered (past ++ [⟨s, action⟩]) t := by
  cases Happens.of_step hs with
  | comes => exact ordered_beginWith h (h.fresh distinct (List.mem_singleton_self _)) rfl s.ids
  | comesNext =>
    exact ordered_beginWith h (h.fresh distinct (List.mem_singleton_self _)) rfl s.ids.take.2
  | acts _ found acts => exact (ordered_callerStep h found acts).later _
  | @handled fault command rest running queue =>
    have kept := h.of_rest queue
    have mine : command ∈ s.queue := by simp [queue]
    cases command with
    | call request n | listen request n =>
      obtain ⟨ask, hask, heq⟩ := h.asker mine rfl
      rw [heq] at queue ⊢
      exact (ordered_ask kept hask fault (free n ask rest queue)).later _
    | unsubscribe id =>
      refine ordered_unsubscribe kept fun query hq => ?_
      have taken : used ⟨s, .handleNext fault⟩ = [s.ids.take.1] :=
        used_unsubscribe queue (by rw [hq, Option.isSome_some])
      exact ⟨h.fresh distinct (by simp [taken]), taken⟩
    | forget id => exact (((kept.erase id).eraseRoute id).deliver _).later _
    | disconnect =>
      apply Ordered.later
      exact ⟨kept.names, kept.queued, kept.pending, kept.routes, kept.known⟩
  | @received frame _ => exact (ordered_receive h frame).later _
  | finished =>
    rw [finish_eq]
    apply Ordered.later
    apply Ordered.deliver
    exact ⟨h.names, by simp, by simp [Router.empty], by simp [Router.empty], fun id hid =>
      h.known id (hid.imp_right fun hid => .inr (by simpa [Router.empty, Table.contains] using hid))⟩
  | asked =>
    rw [enqueue_eq]
    apply Ordered.later
    refine ⟨h.names, ?_, h.pending, h.routes, h.known⟩
    intro command hc
    obtain hc | hc := List.mem_append.1 hc
    · exact h.queued command hc
    · split at hc
      · cases hc
      · exact .inl (List.mem_singleton.1 hc)
  | _ =>
    apply Ordered.later
    exact ⟨h.names, h.queued, h.pending, h.routes, h.known⟩

end Socket

end Tendermint
