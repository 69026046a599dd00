import Tendermint.Proofs.Socket.Independence
import Tendermint.Proofs.Socket.Names

/-!
# Tendermint.Proofs.Socket.Allocation

The identifiers that a process takes one after another, and what their form is good for. They are
the numbers of a row in decimal. The mark of an event is in none of them, so the identifier of an
event is never one of them: nobody waits under it, and what is before the mark says which
subscription it belongs to.

* `RequestId.Counter.takes`, `takes_eq`, `takes_append`: identifiers taken in a row.
* `RequestId.taken`, `nodup_taken`, `ofEvent_not_mem_taken`: the identifiers of a process.
* `Router.HoldsOnly`, `Router.dispatch_event`, `Router.Separate.unfed`: what becomes of an event.
* `Socket.holdsOnly_run`: a connection holds only identifiers that were taken.
* `RequestId.answers_and_events_are_kept_apart`.
-/

namespace Tendermint

namespace RequestId

theorem ne_ofEvent_of_plain {s : String} (plain : '#' ∉ s.toList) (t : String) :
    text s ≠ ofEvent t := by
  intro same
  apply plain
  rw [RequestId.text.inj same, String.toList_append, String.toList_ofList]
  exact List.mem_append_right _ (by decide)

namespace Counter

/-- Takes some identifiers, one after another. -/
def takes : Nat → Counter → List RequestId × Counter
  | 0, row => ([], row)
  | n + 1, row =>
    let (id, row) := row.take
    let (ids, row) := row.takes n
    (id :: ids, row)

theorem takes_succ (n : Nat) (row : Counter) :
    row.takes (n + 1) = (row.take.1 :: (row.take.2.takes n).1, (row.take.2.takes n).2) := rfl

theorem next_take_add (row : Counter) (i : Nat) :
    row.take.2.next + UInt64.ofNat i = row.next + UInt64.ofNat (i + 1) := by
  rw [take, UInt64.add_assoc, Nat.add_comm, UInt64.ofNat_add]
  rfl

theorem takes_eq (n : Nat) (row : Counter) :
    row.takes n = ((List.range n).map row.nth, ⟨row.next + UInt64.ofNat n⟩) := by
  induction n generalizing row with
  | zero => simp [takes]
  | succ n ih =>
    have first : row.take.1 = row.nth 0 :=
      congrArg (fun n : UInt64 => text (toString n.toNat)) (UInt64.add_zero row.next).symm
    have later : row.take.2.nth = row.nth ∘ Nat.succ := by
      funext i
      rw [nth, next_take_add, Function.comp_apply, nth]
    rw [takes_succ, ih, first, later, next_take_add, List.range_succ_eq_map, List.map_cons,
      List.map_map]

theorem takes_append (m n : Nat) (row : Counter) :
    row.takes (m + n) =
      ((row.takes m).1 ++ ((row.takes m).2.takes n).1, ((row.takes m).2.takes n).2) := by
  induction m generalizing row with
  | zero =>
    rw [Nat.zero_add]
    rfl
  | succ m ih =>
    rw [Nat.succ_add, takes_succ, ih, takes_succ]
    rfl

theorem next_start_lt (clock : Option Nat) : (start clock).next.toNat < Nat.pow 2 52 := by
  cases clock with
  | none => decide
  | some n =>
    have small : n % Nat.pow 2 52 < Nat.pow 2 52 := Nat.mod_lt n (by decide)
    have fits : n % Nat.pow 2 52 < UInt64.size := Nat.lt_trans small (by decide)
    rw [start, UInt64.toNat_ofNat_of_lt' fits]
    exact small

/-- The clock leaves room for 2^52 identifiers whose numbers are exact in binary64. -/
theorem toNat_start_add_lt (clock : Option Nat) {i : Nat} (few : i < Nat.pow 2 52) :
    ((start clock).next + UInt64.ofNat i).toNat < Nat.pow 2 53 := by
  have first := next_start_lt clock
  have fits : i < UInt64.size := Nat.lt_trans few (by decide)
  have double : Nat.pow 2 53 = Nat.pow 2 52 + Nat.pow 2 52 := rfl
  rw [UInt64.toNat_add, UInt64.toNat_ofNat_of_lt' fits]
  exact Nat.lt_of_le_of_lt (Nat.mod_le _ _) (by omega)

end Counter

/-- The first identifiers that a process takes, by what the clock shows when it takes the first. -/
def taken (clock : Option Nat) (n : Nat) : List RequestId := ((Counter.start clock).takes n).1

variable {clock : Option Nat} {n : Nat} {id : RequestId}

theorem taken_eq (clock : Option Nat) (n : Nat) :
    taken clock n = (List.range n).map (Counter.start clock).nth := by
  rw [taken, Counter.takes_eq]

theorem decimal_of_mem_taken (mine : id ∈ taken clock n) :
    ∃ number : Nat, id = .text (toString number) := by
  rw [taken_eq] at mine
  obtain ⟨i, -, rfl⟩ := List.mem_map.1 mine
  exact ⟨_, rfl⟩

theorem nodup_taken (clock : Option Nat) (few : n ≤ UInt64.size) : (taken clock n).Nodup := by
  rw [taken_eq]
  exact (Counter.start clock).nodup_nth few

theorem ofEvent_not_mem_taken (clock : Option Nat) (n : Nat) (name : String) :
    ofEvent name ∉ taken clock n := by
  intro mine
  obtain ⟨number, same⟩ := decimal_of_mem_taken mine
  exact ne_ofEvent_of_plain (Counter.plain_toString number) name same.symm

end RequestId

namespace Router

variable {router : Router} {text name : String} {frame : Json}

/-- Everything outstanding is under one of some identifiers. -/
def HoldsOnly (router : Router) (ids : List RequestId) : Prop :=
  ∀ id, router.isOutstanding id = true → id ∈ ids

theorem HoldsOnly.free {ids : List RequestId} (holds : router.HoldsOnly ids) {id : RequestId}
    (apart : id ∉ ids) : router.pending.get? id = none := by
  have idle : router.isOutstanding id = false := by
    rw [← Bool.not_eq_true]
    exact fun waits => apart (holds id waits)
  exact (Socket.isOutstanding_eq_false.1 idle).1

/-- An event under whose identifier nobody waits goes into the feed of its subscription, if there is
one, and does nothing else. -/
theorem dispatch_event (free : router.pending.get? (.ofEvent name) = none)
    (read : Json.ofText? text = some frame) (named : frameId? frame = some (.ofEvent name)) :
    router.dispatch text =
      (router, ((router.routes.get? (.text name)).map fun route =>
        .event route.caller (eventOf frame)).toList) := by
  rw [dispatch_eq read, named]
  simp only [route, free, RequestId.key_ofEvent]
  cases router.routes.get? (.text name) <;> rfl

/-- What goes into the feed of one subscription goes into no other feed. -/
theorem Separate.unfed (separate : router.Separate) {id own : RequestId} {route : Route}
    (found : router.routes.get? id = some route) (other : id ≠ own)
    (item : Except RpcError Event) :
    ∀ d ∈ ((router.routes.get? own).map fun route => .event route.caller item).toList,
      Delivery.feeds route.caller d = false := by
  intro d told
  obtain ⟨mine, named, rfl⟩ := Option.map_eq_some_iff.1 (Option.mem_toList.1 told)
  rw [Delivery.feeds, decide_eq_false_iff_not]
  intro same
  exact other (separate.feed found named same.symm)

end Router

/-- On a connection on which all identifiers come out of one row, everything is under one of those
that were taken since it was opened. -/
theorem Socket.holdsOnly_run {timeout : Duration} {row : RequestId.Counter}
    {past : List (Moment Socket Socket.Action)} {s : Socket}
    (run : History Socket.step (Socket.opened timeout row) past s)
    (byRow : ∀ m ∈ past, ∀ listens request, m.action ≠ .begin listens request) :
    ∃ n ≤ past.length, s.ids = (row.takes n).2 ∧ s.router.HoldsOnly (row.takes n).1 := by
  obtain ⟨n, few, next, part⟩ := numbered_run run byRow
  refine ⟨n, few, ?_, fun id waits => ?_⟩
  · rw [RequestId.Counter.takes_eq, ← next]
  · rw [RequestId.Counter.takes_eq]
    exact part.subset (used_of_outstanding run waits)

namespace RequestId

/-- The identifiers of a process are decimal numbers, one after another from where the clock lets
them start, and up to 2^64 of them are distinct. Each is its own key and the key of its events, and
none of them is the identifier of an event of any other. So in tables that hold nothing under other
identifiers, nobody waits under the identifier of an event: it takes no entry away, and goes into
the feed of the subscription that it is named for, if there is one, and into no other. On every
connection of the process, opened whenever it may be, the tables are like this as long as all
callers get their identifiers from it. -/
theorem answers_and_events_are_kept_apart (clock : Option Nat) (n : Nat) :
    ((taken clock n).length = n ∧ (n ≤ UInt64.size → (taken clock n).Nodup)) ∧
    (∀ i < n, ∃ number : UInt64, number = (Counter.start clock).next + UInt64.ofNat i ∧
      (taken clock n)[i]? = some (.text (toString number.toNat)) ∧
      (i < Nat.pow 2 52 → number.toNat < Nat.pow 2 53)) ∧
    (∀ id ∈ taken clock n, id.key = id ∧ (ofEvent id.display).key = id ∧
      ∀ other ∈ taken clock n, other ≠ ofEvent id.display) ∧
    (∀ router : Router, router.HoldsOnly (taken clock n) →
      ∀ (text : String) (frame : Json) (name : String), Json.ofText? text = some frame →
        Router.frameId? frame = some (ofEvent name) →
        router.pending.get? (ofEvent name) = none ∧
        router.dispatch text =
          (router, ((router.routes.get? (.text name)).map fun route =>
            .event route.caller (Router.eventOf frame)).toList) ∧
        (router.Separate → ∀ id route, router.routes.get? id = some route → id ≠ .text name →
          ∀ delivery ∈ (router.dispatch text).2, delivery.feeds route.caller = false)) ∧
    ∀ (timeout : Duration) past (s : Socket),
      History Socket.step (Socket.opened timeout ((Counter.start clock).takes n).2) past s →
      (∀ m ∈ past, ∀ listens request, m.action ≠ .begin listens request) →
      ∃ more ≤ past.length, s.ids = ((Counter.start clock).takes (n + more)).2 ∧
        s.router.HoldsOnly (taken clock (n + more)) ∧ s.router.Separate := by
  refine ⟨⟨by simp [taken_eq], nodup_taken clock⟩, fun i small => ?_, fun id mine => ?_, ?_, ?_⟩
  · refine ⟨_, rfl, ?_, Counter.toNat_start_add_lt clock⟩
    rw [taken_eq, List.getElem?_map, List.getElem?_range small]
    rfl
  · obtain ⟨number, rfl⟩ := decimal_of_mem_taken mine
    refine ⟨key_of_plain (Counter.plain_toString number), key_ofEvent _, ?_⟩
    rintro other others rfl
    exact ofEvent_not_mem_taken clock n _ others
  · intro router holds text frame name read named
    have free := holds.free (ofEvent_not_mem_taken clock n name)
    have dispatched := Router.dispatch_event free read named
    refine ⟨free, dispatched, fun separate id route found other => ?_⟩
    rw [dispatched]
    exact separate.unfed found other _
  · intro timeout past s run byRow
    obtain ⟨more, few, ids, holds⟩ := Socket.holdsOnly_run run byRow
    refine ⟨more, few, ?_, fun id waits => ?_, (Socket.owned_run run).separate⟩
    · rw [Counter.takes_append]
      exact ids
    · rw [taken, Counter.takes_append]
      exact List.mem_append_right _ (holds id waits)

section Sample

/-- A connection that is opened when one identifier, which is 8, was taken. -/
def fromNine : Socket := Socket.opened ⟨10⟩ ((Counter.start (some 8)).takes 1).2

/-- A call and two subscriptions, sent and not answered yet. -/
def asking : List Socket.Action :=
  [.beginNext false "status" [],
    .beginNext true "subscribe" (Params.subscription ⟨"tm.event='Tx'"⟩),
    .beginNext true "subscribe" (Params.subscription ⟨"tm.event='NewBlock'"⟩),
    .submit 0, .submit 1, .submit 2, .handleNext none, .handleNext none, .handleNext none]

/-- An event that comes before its subscription is acknowledged. -/
def early : String := "\x7b\"id\":\"10#event\",\"result\":1\x7d"

/-- The event does not acknowledge the subscription whose feed it goes into, and does not reach the
other. -/
theorem early_event_is_kept_apart :
    (taken (some 8) 4).Nodup ∧
    (∃ number : UInt64, (taken (some 8) 4)[2]? = some (.text (toString number.toNat)) ∧
      number.toNat < Nat.pow 2 53) ∧
    (text "10" ∈ taken (some 8) 4 ∧ (text "10").key = .text "10") ∧
    ∃ s, fromNine.run asking = some s ∧ s.router.pending.get? (.text "10") = some (.subscribe 1) ∧
      ∃ item, s.router.dispatch early = (s.router, [.event 1 item]) ∧
        ∀ delivery ∈ (s.router.dispatch early).2, delivery.feeds 2 = false := by
  obtain ⟨⟨-, distinct⟩, numbers, own, -⟩ := answers_and_events_are_kept_apart (some 8) 4
  obtain ⟨number, -, third, small⟩ := numbers 2 (by decide)
  have mine : text "10" ∈ taken (some 8) 4 := by decide
  refine ⟨distinct (by decide), ⟨number, third, small (by decide)⟩, ⟨mine, (own _ mine).1⟩, ?_⟩
  have possible : (fromNine.run asking).isSome = true := rfl
  obtain ⟨s, run⟩ := Option.isSome_iff_exists.1 possible
  have tables : (fromNine.run asking).map (fun s =>
      (s.router.pending.get? (.text "10"), s.router.routes.get? (.text "10"),
        s.router.routes.get? (.text "11"))) =
      some (some (.subscribe 1), some ⟨some "tm.event='Tx'", 1⟩,
        some ⟨some "tm.event='NewBlock'", 2⟩) := rfl
  simp only [run, Option.map_some, Option.some.injEq, Prod.mk.injEq] at tables
  obtain ⟨waits, route, other⟩ := tables
  have byRow : ∀ m ∈ moments Socket.step asking fromNine, ∀ listens request,
      m.action ≠ .begin listens request := by
    intro m hm listens request same
    have planned := action_mem_of_mem_moments hm
    simp [same, asking] at planned
  obtain ⟨-, -, -, -, connection⟩ := answers_and_events_are_kept_apart (some 8) 1
  obtain ⟨more, -, -, holds, separate⟩ := connection ⟨10⟩ _ s (Socket.history_of_run run) byRow
  obtain ⟨-, -, -, router, -⟩ := answers_and_events_are_kept_apart (some 8) (1 + more)
  have read : Json.ofText? early =
      some (.object [("id", .string "10#event"), ("result", .number (.integer 1))]) := rfl
  obtain ⟨-, told, unfed⟩ := router s.router holds early _ "10" read rfl
  rw [route] at told
  exact ⟨s, run, waits, _, told, unfed separate _ _ other (by decide)⟩

end Sample

end RequestId

end Tendermint
