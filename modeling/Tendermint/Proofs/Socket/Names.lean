import Mathlib.Data.List.Nodup
import Mathlib.Data.List.Range
import Std.Data.String.ToNat
import Tendermint.Proofs.Socket.Order

/-!
# Tendermint.Proofs.Socket.Names

Identifiers out of one row. They are decimal, so the mark of an event is in none of them, and no
two of them are the same unless the row comes round.

* `RequestId.key_eq_text`: which frames are under a subscription.
* `Socket.Numbered`, `numbered_run`: what a run takes into use is a part of the row.
* `Socket.distinct_of_row`: as many as 2^64 identifiers of one row are distinct.
-/

namespace Tendermint

namespace RequestId

variable {s t : String}

theorem withoutEnding_append (ending text : List Char) :
    withoutEnding ending (text ++ ending) = text := by
  have ends : ending.isSuffixOf (text ++ ending) = true :=
    List.isSuffixOf_iff_suffix.2 (List.suffix_append text ending)
  simp [withoutEnding, ends]

theorem eq_or_eq_append_of_withoutEnding {ending text rest : List Char}
    (h : withoutEnding ending text = rest) : text = rest ∨ text = rest ++ ending := by
  unfold withoutEnding at h
  split at h
  · rename_i ends
    obtain ⟨front, rfl⟩ := List.isSuffixOf_iff_suffix.1 ends
    right
    simpa using h
  · exact .inl h

theorem key_ofEvent (s : String) : (ofEvent s).key = .text s := by
  simp [ofEvent, key, withoutEnding_append]

/-- A text in which the mark of an event cannot begin is its own key. -/
theorem key_of_plain (plain : '#' ∉ s.toList) : (text s).key = .text s := by
  have whole : ¬ eventSuffix.isSuffixOf s.toList = true := by
    intro ends
    apply plain
    exact (List.isSuffixOf_iff_suffix.1 ends).subset (by decide)
  simp [key, withoutEnding, whole]

/-- Under a subscription are its own identifier and that of its events, and no other. -/
theorem key_eq_text (plain : '#' ∉ s.toList) {name : RequestId} :
    name.key = .text s ↔ name = .text s ∨ name = ofEvent s := by
  constructor
  · intro h
    cases name with
    | number n => cases h
    | text other =>
      have same : withoutEnding eventSuffix other.toList = s.toList := by
        rw [← RequestId.text.inj h, String.toList_ofList]
      obtain bare | marked := eq_or_eq_append_of_withoutEnding same
      · left
        rw [String.toList_injective bare]
      · right
        have eq : other = s ++ String.ofList eventSuffix := by
          apply String.toList_injective
          rw [marked, String.toList_append, String.toList_ofList]
        rw [eq, ofEvent]
  · rintro (rfl | rfl)
    · exact key_of_plain plain
    · exact key_ofEvent s

namespace Counter

/-- The identifier that a row gives after a number of others. -/
def nth (row : Counter) (i : Nat) : RequestId :=
  .text (toString (row.next + UInt64.ofNat i).toNat)

theorem plain_toString (n : Nat) : '#' ∉ (toString n).toList := by
  intro mark
  rw [Nat.toString_eq_repr, Nat.toList_repr] at mark
  have digit := Nat.isDigit_of_mem_toDigits (by decide) (by decide) mark
  exact absurd digit (by decide)

theorem nth_injOn (row : Counter) {i j : Nat} (hi : i < UInt64.size) (hj : j < UInt64.size)
    (same : row.nth i = row.nth j) : i = j := by
  have digits := RequestId.text.inj same
  rw [Nat.toString_eq_repr, Nat.toString_eq_repr] at digits
  have value := UInt64.toNat_inj.1 (Nat.repr_injective digits)
  have offset : UInt64.ofNat i = UInt64.ofNat j := by simpa using value
  have numbers := congrArg UInt64.toNat offset
  rwa [UInt64.toNat_ofNat_of_lt' hi, UInt64.toNat_ofNat_of_lt' hj] at numbers

/-- A row gives 2^64 identifiers before it comes round. -/
theorem nodup_nth (row : Counter) {n : Nat} (few : n ≤ UInt64.size) :
    ((List.range n).map row.nth).Nodup := by
  refine List.Nodup.map_on ?_ List.nodup_range
  intro i hi j hj same
  rw [List.mem_range] at hi hj
  exact row.nth_injOn (by omega) (by omega) same

end Counter

end RequestId

namespace Socket

variable {past : List (Moment Socket Action)} {s t : Socket} {row : RequestId.Counter}

@[simp] theorem deliver_ids (ds : List Delivery) (s : Socket) : (s.deliver ds).ids = s.ids := by
  rw [deliver_eq]

/-- Of the commands only `unsubscribe` takes an identifier. -/
theorem handle_ids (fault : Option NetworkFault) (command : SocketCommand) (s : Socket) :
    (s.handle fault command).ids = s.ids ∧
        (∀ id, command = .unsubscribe id → (s.router.takeRoute id).1 = none) ∨
      (s.handle fault command).ids = s.ids.take.2 ∧
        ∃ id, command = .unsubscribe id ∧ (s.router.takeRoute id).1.isSome = true := by
  cases command with
  | call request n | listen request n =>
    left
    refine ⟨?_, by rintro _ ⟨⟩⟩
    simp only [handle]
    split
    · exact deliver_ids _ s
    · split
      · exact deliver_ids _ s
      · exact deliver_ids _ _
  | unsubscribe id =>
    have parted : (s.withRouter (s.router.takeRoute id).2).ids = s.ids := deliver_ids _ _
    cases query : (s.router.takeRoute id).1 with
    | none =>
      left
      constructor
      · simp only [handle, query]
        exact parted
      · rintro _ ⟨⟩
        exact query
    | some q =>
      right
      refine ⟨?_, id, rfl, by rw [query, Option.isSome_some]⟩
      simp only [handle, query]
      split
      · exact congrArg (fun ids => ids.take.2) parted
      · exact (deliver_ids _ _).trans (congrArg (fun ids => ids.take.2) parted)
  | forget id => exact .inl ⟨deliver_ids _ _, by rintro _ ⟨⟩⟩
  | disconnect => exact .inl ⟨rfl, by rintro _ ⟨⟩⟩

/-- A step takes at most one identifier out of the row, and uses no other. -/
theorem ids_step {action : Action} (hs : s.step action = some t)
    (byRow : ∀ listens request, action ≠ .begin listens request) :
    t.ids = s.ids ∧ used ⟨s, action⟩ = [] ∨
      t.ids = s.ids.take.2 ∧ (used ⟨s, action⟩).Sublist [s.ids.take.1] := by
  cases Happens.of_step hs with
  | comes => exact absurd rfl (byRow _ _)
  | comesNext => exact .inr ⟨rfl, .refl _⟩
  | skipped => exact .inr ⟨rfl, List.nil_sublist _⟩
  | @handled fault command rest _ queue =>
    obtain ⟨same, idle⟩ | ⟨taken, id, rfl, query⟩ := handle_ids fault command { s with queue := rest }
    · refine .inl ⟨same, ?_⟩
      simp only [used, queue, List.head?_cons]
      cases command with
      | unsubscribe id =>
        have nothing : (s.router.takeRoute id).1 = none := idle id rfl
        simp [nothing]
      | _ => rfl
    · refine .inr ⟨taken, ?_⟩
      rw [used_unsubscribe queue query]
  | received =>
    refine .inl ⟨?_, rfl⟩
    rw [receive_eq]
    split
    · exact deliver_ids _ _
    · rfl
  | finished =>
    rw [finish_eq]
    exact .inl ⟨deliver_ids _ _, rfl⟩
  | asked =>
    rw [enqueue_eq]
    exact .inl ⟨rfl, rfl⟩
  | acts actor _ acts =>
    obtain ⟨commands, f, rfl, -, -⟩ := callerStep_eq acts
    refine .inl ⟨rfl, ?_⟩
    cases action <;> first | rfl | cases actor
  | _ => exact .inl ⟨rfl, rfl⟩

/-- What was taken into use is a part of the row, in its order. -/
def Numbered (row : RequestId.Counter) (past : List (Moment Socket Action)) (s : Socket) : Prop :=
  ∃ n ≤ past.length, s.ids.next = row.next + UInt64.ofNat n ∧
    (past.flatMap used).Sublist ((List.range n).map row.nth)

theorem numbered_step {action : Action} (h : Numbered row past s) (hs : s.step action = some t)
    (byRow : ∀ listens request, action ≠ .begin listens request) :
    Numbered row (past ++ [⟨s, action⟩]) t := by
  obtain ⟨n, few, next, part⟩ := h
  obtain ⟨same, unused⟩ | ⟨taken, one⟩ := ids_step hs byRow
  · refine ⟨n, ?_, same ▸ next, ?_⟩
    · rw [List.length_append]
      omega
    · rw [List.flatMap_append, List.flatMap_singleton, unused, List.append_nil]
      exact part
  · have nth : s.ids.take.1 = row.nth n := by
      simp only [RequestId.Counter.take, RequestId.Counter.nth, next]
    refine ⟨n + 1, ?_, ?_, ?_⟩
    · rw [List.length_append]
      exact Nat.succ_le_succ few
    · rw [taken, RequestId.Counter.take, next, UInt64.ofNat_add, UInt64.add_assoc]
      rfl
    · rw [List.flatMap_append, List.flatMap_singleton, List.range_succ, List.map_append]
      rw [nth] at one
      exact part.append one

theorem numbered_run {timeout : Duration} (run : History step (opened timeout row) past s)
    (byRow : ∀ m ∈ past, ∀ listens request, m.action ≠ .begin listens request) :
    Numbered row past s := by
  induction run with
  | start => exact ⟨0, Nat.le_refl 0, (UInt64.add_zero row.next).symm, .refl _⟩
  | next _ hs ih =>
    have before := ih fun m hm => byRow m (List.mem_append_left _ hm)
    exact numbered_step before hs (byRow _ (List.mem_append_right _ (List.mem_singleton_self _)))

/-- Identifiers that all come from one row are distinct, as long as it does not come round. -/
theorem distinct_of_row {timeout : Duration} (run : History step (opened timeout row) past s)
    (byRow : ∀ m ∈ past, ∀ listens request, m.action ≠ .begin listens request)
    (few : past.length ≤ UInt64.size) : Distinct past := by
  obtain ⟨n, small, -, part⟩ := numbered_run run byRow
  exact part.nodup (row.nodup_nth (Nat.le_trans small few))

end Socket

end Tendermint
