import Tendermint.Proofs.History

/-!
# Tendermint.Proofs.Socket.Delivery

What deliveries do: they reach one caller each, and change of it the answer and the feed and
nothing else.

* `Caller.reached`: a caller after some deliveries.
* `getElem?_deliver`: deliveries to others leave a caller as it is.
* `deliver_eq`: deliveries leave all but the callers as it is.
* `finish_eq`: all that the end of the task delivers.
* `Table.flatMap_entries`: what a table holds under one key.
-/

namespace Tendermint

/-- A list made from the entries of a table, of which only one key counts. -/
theorem Table.flatMap_entries {κ ν β : Type} [DecidableEq κ] (table : Table κ ν) (key : κ)
    (f : κ × ν → List β)
    (silent : ∀ other value, table.get? other = some value → other ≠ key → f (other, value) = []) :
    table.entries.flatMap f = ((table.get? key).map fun value => f (key, value)).getD [] := by
  obtain ⟨entries, distinct⟩ := table
  have quiet : ∀ entry ∈ entries, entry.1 ≠ key → f entry = [] := fun entry he =>
    silent entry.1 entry.2 (Table.get?_eq_some.2 he)
  clear silent
  simp only [Table.get?]
  induction entries with
  | nil => rfl
  | cons entry rest ih =>
    rw [List.map_cons, List.nodup_cons] at distinct
    rw [List.flatMap_cons]
    by_cases h : entry.1 = key
    · have none_left : rest.flatMap f = [] := by
        rw [List.flatMap_eq_nil_iff]
        intro other ho
        refine quiet other (List.mem_cons_of_mem _ ho) ?_
        rintro rfl
        exact distinct.1 (List.mem_map.2 ⟨other, ho, h.symm⟩)
      subst h
      simp [none_left]
    · rw [quiet entry List.mem_cons_self h, List.nil_append, List.find?_cons_of_neg (by simpa using h)]
      exact ih distinct.2 fun other ho => quiet other (List.mem_cons_of_mem _ ho)

namespace Caller

/-- Its feed gets nothing more. -/
def detached (caller : Caller) : Caller := { caller with feed := caller.feed.detach }

end Caller

namespace Delivery

/-- Whom a delivery is for. -/
def caller : Delivery → Nat
  | .answer caller _ => caller
  | .hangUp caller => caller
  | .event caller _ => caller
  | .endFeed caller => caller

/-- What a delivery does to the one it is for. -/
def reach : Delivery → Caller → Caller
  | .answer _ outcome => Caller.answered (.filled outcome)
  | .hangUp _ => Caller.answered .abandoned
  | .event _ item => Caller.heard item
  | .endFeed _ => Caller.detached

end Delivery

namespace Caller

/-- A caller after some deliveries to it. -/
def reached (deliveries : List Delivery) (caller : Caller) : Caller :=
  deliveries.foldl (fun c delivery => delivery.reach c) caller

@[simp] theorem reached_nil (c : Caller) : c.reached [] = c := rfl

@[simp] theorem reached_cons (d : Delivery) (ds : List Delivery) (c : Caller) :
    c.reached (d :: ds) = (d.reach c).reached ds := rfl

theorem answered_eq (slot : AnswerSlot) (c : Caller) :
    c.answered slot = { c with answer := (c.answered slot).answer } := by
  unfold answered
  split
  · split <;> rfl
  · rfl

theorem heard_eq (item : Except RpcError Event) (c : Caller) :
    c.heard item = { c with feed := (c.heard item).feed } := by
  unfold heard
  split <;> rfl

@[simp] theorem answered_request (slot : AnswerSlot) (c : Caller) :
    (c.answered slot).request = c.request := by
  rw [answered_eq]

@[simp] theorem heard_request (item : Except RpcError Event) (c : Caller) :
    (c.heard item).request = c.request := by
  rw [heard_eq]

@[simp] theorem detached_request (c : Caller) : c.detached.request = c.request := rfl

theorem heard_attached (item : Except RpcError Event) {c : Caller} (hears : c.hears = true)
    (attached : c.feed.attached = true) :
    c.heard item = { c with feed := { c.feed with unread := c.feed.unread ++ [item] } } := by
  simp [heard, FeedSlot.push, hears, attached]

/-- What a caller is besides what deliveries reach. -/
theorem reached_eq (ds : List Delivery) (c : Caller) :
    c.reached ds = { c with answer := (c.reached ds).answer, feed := (c.reached ds).feed } := by
  induction ds generalizing c with
  | nil => rfl
  | cons d ds ih =>
    rw [reached_cons, ih]
    cases d with
    | answer n outcome => rw [Delivery.reach, answered_eq]
    | hangUp n => rw [Delivery.reach, answered_eq]
    | event n item => rw [Delivery.reach, heard_eq]
    | endFeed n => rfl

end Caller

namespace Socket

theorem deliverOne_eq (s : Socket) (d : Delivery) :
    s.deliverOne d = s.modifyCaller d.caller d.reach := by
  cases d <;> rfl

theorem deliver_eq (ds : List Delivery) (s : Socket) :
    s.deliver ds = { s with callers := (s.deliver ds).callers } := by
  induction ds generalizing s with
  | nil => rfl
  | cons d ds ih =>
    have once : s.deliver (d :: ds) = (s.modifyCaller d.caller d.reach).deliver ds := by
      rw [← deliverOne_eq]
      rfl
    rw [once, ih]
    rfl

theorem deliver_append (ds es : List Delivery) (s : Socket) :
    s.deliver (ds ++ es) = (s.deliver ds).deliver es := List.foldl_append

theorem getElem?_modifyCaller (s : Socket) (n k : Nat) (f : Caller → Caller) :
    (s.modifyCaller n f).callers[k]? = if n = k then s.callers[k]?.map f else s.callers[k]? := by
  rw [modifyCaller, List.getElem?_modify]
  by_cases h : n = k <;> simp [h]

/-- A caller gets what is for it and nothing else. -/
theorem getElem?_deliver (ds : List Delivery) (s : Socket) (k : Nat) :
    (s.deliver ds).callers[k]? =
      s.callers[k]?.map (Caller.reached (ds.filter fun d => d.caller = k)) := by
  induction ds generalizing s with
  | nil =>
    change s.callers[k]? = s.callers[k]?.map id
    rw [Option.map_id, id]
  | cons d ds ih =>
    change ((s.deliverOne d).deliver ds).callers[k]? = _
    rw [ih, deliverOne_eq, getElem?_modifyCaller]
    by_cases h : d.caller = k
    · rw [if_pos h, List.filter_cons_of_pos (by simpa using h), Option.map_map]
      rfl
    · rw [if_neg h, List.filter_cons_of_neg (by simpa using h)]

theorem callers_deliver (ds : List Delivery) {s t : Socket} (h : s.callers = t.callers) :
    (s.deliver ds).callers = (t.deliver ds).callers := by
  apply List.ext_getElem?
  intro k
  rw [getElem?_deliver, getElem?_deliver, h]

/-- What is delivered to the caller of a command that is dropped from the queue. -/
def discarded : SocketCommand → List Delivery
  | .call _ caller => [.hangUp caller]
  | .listen _ caller => [.hangUp caller, .endFeed caller]
  | _ => []

theorem foldl_discard (commands : List SocketCommand) (s : Socket) :
    commands.foldl discard s = s.deliver (commands.flatMap discarded) := by
  induction commands generalizing s with
  | nil => rfl
  | cons command rest ih =>
    rw [List.foldl_cons, ih, List.flatMap_cons, deliver_append]
    cases command <;> rfl

/-- The end of the task. -/
theorem finish_eq (s : Socket) :
    s.finish =
      { s with router := .empty, phase := .finished, connected := false, queue := [] }.deliver
        (s.router.shutdown.2 ++ s.queue.flatMap discarded) := by
  rw [deliver_append, ← foldl_discard]
  rfl

end Socket

end Tendermint
