import Tendermint.Proofs.Socket.Ownership

/-!
# Tendermint.Proofs.Socket.Independence

Frames of different identifiers do not depend on each other. What a frame reads and changes are
the entry and the route of its identifier, and the route of its key; frames that share none of these
may come in any order. To forget a request and to take a frame may change places too, whatever the
identifier of the frame, so that it makes no difference to the tables whether an answer was late.

* `Router.Separate`, `Socket.Owned.separate`: on a connection every caller has one entry and one
  feed.
* `Router.tables_comm`, `Router.told_apart`, `Router.tables_forget`: what may change places.
* `Router.frames_are_independent`.
-/

namespace Tendermint

namespace Router

variable {router : Router} {i j : RequestId} {f g : Json}

/-- No caller waits in two entries or has two feeds. -/
structure Separate (router : Router) : Prop where
  entry {i j : RequestId} {a b : Pending} {number : Nat} (left : router.pending.get? i = some a)
    (right : router.pending.get? j = some b) (first : a.caller? = some number)
    (second : b.caller? = some number) : i = j
  feed {i j : RequestId} {a b : Route} (left : router.routes.get? i = some a)
    (right : router.routes.get? j = some b) (same : a.caller = b.caller) : i = j

/-- What becomes of texts that come one after another. -/
def dispatchAll : List String → Router → Router × List Delivery
  | [], router => (router, [])
  | text :: rest, router =>
    let (next, told) := router.dispatch text
    let (last, more) := next.dispatchAll rest
    (last, told ++ more)

/-! ## Two frames -/

theorem isRefused_settle (apart : j ≠ i) (refused : Bool) (g : Json) (router : Router) :
    (router.settle i refused).isRefused j g = router.isRefused j g := by
  rw [isRefused, pending_settle, if_neg apart, isRefused]

theorem tables_comm (apart : i ≠ j) (f g : Json) (router : Router) :
    ((router.route i f).1.route j g).1 = ((router.route j g).1.route i f).1 := by
  simp only [route_tables]
  rw [isRefused_settle apart.symm, isRefused_settle apart, settle_comm]

/-- A frame with another identifier does not change the deliveries. -/
theorem told_apart (other : j ≠ i) (parent : j.key ≠ i) (f g : Json) (router : Router) :
    ((router.route i f).1.route j g).2 = (router.route j g).2 := by
  rw [route_tables]
  refine route_told ?_ (routes_settle other ..) (routes_settle parent ..)
  rw [pending_settle, if_neg other]

theorem forget_eq (id : RequestId) (router : Router) :
    (router.forget id).1 = router.settle id true := rfl

/-- To forget a request and to take a frame may change places. -/
theorem tables_forget (id i : RequestId) (f : Json) (router : Router) :
    ((router.forget id).1.route i f).1 = ((router.route i f).1.forget id).1 := by
  simp only [forget_eq, route_tables]
  by_cases own : i = id
  · subst own
    cases router.isRefused i f <;> simp [isRefused, settle]
  · rw [isRefused_settle own, settle_comm]

/-- Two frames that share nothing do not answer the same caller. -/
theorem Separate.answers_apart (separate : router.Separate) (apart : i ≠ j) (number : Nat) :
    (∀ d ∈ (router.route i f).2, d.answers number = false) ∨
      ∀ d ∈ (router.route j g).2, d.answers number = false := by
  by_contra! ⟨⟨d, hd, first⟩, e, he, second⟩
  rw [ne_eq, Bool.not_eq_false] at first second
  obtain ⟨a, left, waits⟩ := (tells_of_route d hd).answered first
  obtain ⟨b, right, too⟩ := (tells_of_route e he).answered second
  exact apart (separate.entry left right waits too)

/-- Two frames that share nothing do not feed the same caller. -/
theorem Separate.feeds_apart (separate : router.Separate) (apart : [i, i.key].Disjoint [j, j.key])
    (number : Nat) :
    (∀ d ∈ (router.route i f).2, d.feeds number = false) ∨
      ∀ d ∈ (router.route j g).2, d.feeds number = false := by
  by_contra! ⟨⟨d, hd, first⟩, e, he, second⟩
  rw [ne_eq, Bool.not_eq_false] at first second
  obtain ⟨k, mine, a, left, feeds⟩ := (tells_of_route d hd).fed first
  obtain ⟨l, yours, b, right, too⟩ := (tells_of_route e he).fed second
  obtain rfl := separate.feed left right (feeds.trans too.symm)
  exact apart mine yours

theorem filter_append_comm {p : Delivery → Bool} {ds es : List Delivery}
    (apart : (∀ d ∈ ds, p d = false) ∨ ∀ e ∈ es, p e = false) :
    (ds ++ es).filter p = (es ++ ds).filter p := by
  have none {ds : List Delivery} (quiet : ∀ d ∈ ds, p d = false) : ds.filter p = [] :=
    List.filter_eq_nil_iff.2 fun d hd => by simp [quiet d hd]
  rw [List.filter_append, List.filter_append]
  obtain quiet | quiet := apart <;> rw [none quiet, List.append_nil, List.nil_append]

theorem dispatchAll_pair {first second : String}
    (one : ∀ r : Router, r.dispatch first = r.route i f)
    (two : ∀ r : Router, r.dispatch second = r.route j g) (other : j ≠ i) (parent : j.key ≠ i) :
    router.dispatchAll [first, second] =
      (((router.route i f).1.route j g).1, (router.route i f).2 ++ (router.route j g).2) := by
  simp only [dispatchAll, one, two, List.append_nil, told_apart other parent]

end Router

theorem Socket.Owned.separate {s : Socket} (owned : s.Owned) : s.router.Separate where
  entry := by
    intro i j a b number left right first second
    have asks {id : RequestId} {entry : Pending} (found : s.router.pending.get? id = some entry)
        (waits : entry.caller? = some number) :
        ∃ ask, s.asked[number]? = some ask ∧ ask.1.id = id := by
      obtain ⟨_, rfl⟩ | ⟨n, ask, hask, name, rfl⟩ := owned.entry id entry found
      · cases waits
      · rw [caller?_entryFor] at waits
        exact ⟨ask, Option.some.inj waits ▸ hask, name⟩
    obtain ⟨ask, hask, rfl⟩ := asks left first
    obtain ⟨_, same, rfl⟩ := asks right second
    cases hask.symm.trans same
    rfl
  feed := by
    intro i j a b left right same
    obtain ⟨ask, hask, rfl, -⟩ := owned.route i a left
    obtain ⟨_, other, rfl, -⟩ := owned.route j b right
    cases hask.symm.trans (same ▸ other)
    rfl

namespace Router

/-- Frames do not depend on each other. Two whose identifiers and keys are apart come to the same in
either order: the tables are the same, and each delivers what it delivers if it comes alone. As no
caller has two entries or two feeds, which is so on every connection, every caller gets the same
answers, and the same items in its feed. A `forget` and a frame leave the same tables in either
order, be the frame the answer to that very request. A text that has no identifier, or one under
which nobody waits and whose key has no route, does nothing at all. Any other leaves all entries and
routes but its own as they are, and delivers only to the callers of these. -/
theorem frames_are_independent :
    (∀ (router : Router) (first second : String) (i j : RequestId),
      idOf? first = some i → idOf? second = some j → [i, i.key].Disjoint [j, j.key] →
      (router.dispatchAll [first, second]).1 = (router.dispatchAll [second, first]).1 ∧
      (router.dispatchAll [first, second]).2 =
        (router.dispatch first).2 ++ (router.dispatch second).2 ∧
      (router.dispatchAll [second, first]).2 =
        (router.dispatch second).2 ++ (router.dispatch first).2 ∧
      (router.Separate → ∀ number,
        (router.dispatchAll [first, second]).2.filter (Delivery.answers number) =
          (router.dispatchAll [second, first]).2.filter (Delivery.answers number) ∧
        (router.dispatchAll [first, second]).2.filter (Delivery.feeds number) =
          (router.dispatchAll [second, first]).2.filter (Delivery.feeds number))) ∧
    (∀ (timeout : Duration) (ids : RequestId.Counter) past (s : Socket),
      History Socket.step (Socket.opened timeout ids) past s → s.router.Separate) ∧
    (∀ (router : Router) (id : RequestId) (text : String),
      ((router.forget id).1.dispatch text).1 = ((router.dispatch text).1.forget id).1) ∧
    ∀ (router : Router) (text : String),
      ((∀ id, idOf? text = some id →
          router.pending.get? id = none ∧ router.routes.get? id.key = none) →
        router.dispatch text = (router, [])) ∧
      ∀ id, idOf? text = some id →
        (∀ other, other ≠ id →
          (router.dispatch text).1.pending.get? other = router.pending.get? other ∧
          (router.dispatch text).1.routes.get? other = router.routes.get? other) ∧
        (router.dispatch text).1.pending.get? id = none ∧
        ((router.dispatch text).1.routes.get? id = router.routes.get? id ∨
          (router.dispatch text).1.routes.get? id = none) ∧
        ∀ delivery ∈ (router.dispatch text).2, router.Tells id delivery := by
  refine ⟨?_, fun _ _ _ _ run => (Socket.owned_run run).separate, ?_, fun router text => ⟨?_, ?_⟩⟩
  · intro router first second i j named known apart
    obtain ⟨f, one⟩ := exists_frame named
    obtain ⟨g, two⟩ := exists_frame known
    have other : i ≠ j := by
      rintro rfl
      exact apart List.mem_cons_self List.mem_cons_self
    have above : i.key ≠ j := by
      rintro rfl
      exact apart (by simp) List.mem_cons_self
    have parent : j.key ≠ i := by
      rintro rfl
      exact apart List.mem_cons_self (by simp)
    rw [dispatchAll_pair one two other.symm parent, dispatchAll_pair two one other above, one, two]
    refine ⟨tables_comm other f g router, rfl, rfl, fun separate number => ?_⟩
    exact ⟨filter_append_comm (separate.answers_apart other number),
      filter_append_comm (separate.feeds_apart apart number)⟩
  · intro router id text
    cases named : idOf? text with
    | none => rw [dispatch_nameless named, dispatch_nameless named]
    | some i =>
      obtain ⟨f, same⟩ := exists_frame named
      rw [same, same, tables_forget]
  · intro noise
    cases named : idOf? text with
    | none => exact dispatch_nameless named router
    | some i =>
      obtain ⟨f, same⟩ := exists_frame named
      obtain ⟨missing, routeless⟩ := noise i named
      rw [same, route, missing]
      dsimp only
      rw [routeless]
  · intro id named
    obtain ⟨f, same⟩ := exists_frame named
    rw [same, route_tables]
    refine ⟨fun other away => ⟨?_, routes_settle away ..⟩, ?_, ?_, tells_of_route⟩
    · rw [pending_settle, if_neg away]
    · rw [pending_settle, if_pos rfl]
    · rw [settle]
      dsimp only
      split
      · exact .inr (by rw [Table.get?_erase, if_pos rfl])
      · exact .inl rfl

section Sample

/-- A call and a subscription that wait. -/
def two : Router :=
  ⟨(Table.empty.insert (.text "1") (.call 0)).insert (.text "2") (.subscribe 1),
    Table.empty.insert (.text "2") ⟨none, 1⟩⟩

theorem two_separate : two.Separate where
  entry := by
    intro i j a b number left right first second
    simp only [two, Table.get?_insert, Table.get?_empty] at left right
    grind [Pending.caller?]
  feed := by
    intro i j a b left right same
    simp only [two, Table.get?_insert, Table.get?_empty] at left right
    grind

/-- The answer to the call, the refusal of the subscription, and a frame for nobody. -/
def callAnswer : String := "\x7b\"id\":\"1\",\"result\":5\x7d"

def refusal : String := "\x7b\"id\":\"2\",\"error\":0\x7d"

def stray : String := "\x7b\"id\":\"3\",\"result\":5\x7d"

/-- The subscription is refused before the call is answered or after, and the call is none of its
business. -/
theorem two_frames_are_independent :
    ((two.dispatchAll [callAnswer, refusal]).1 = (two.dispatchAll [refusal, callAnswer]).1 ∧
      (two.dispatchAll [callAnswer, refusal]).2.filter (Delivery.feeds 1) =
        (two.dispatchAll [refusal, callAnswer]).2.filter (Delivery.feeds 1)) ∧
    (Socket.opened ⟨0⟩ ⟨0⟩).router.Separate ∧
    two.dispatch stray = (two, []) ∧
    (two.dispatch refusal).1.pending.get? (.text "1") = some (.call 0) := by
  obtain ⟨pair, connection, -, single⟩ := frames_are_independent
  have first : idOf? callAnswer = some (.text "1") := rfl
  have second : idOf? refusal = some (.text "2") := rfl
  have third : idOf? stray = some (.text "3") := rfl
  have apart : ∀ id ∈ [RequestId.text "1", (RequestId.text "1").key],
      id ∉ [.text "2", (RequestId.text "2").key] := by decide
  obtain ⟨tables, -, -, told⟩ := pair two _ _ _ _ first second apart
  refine ⟨⟨tables, (told two_separate 1).2⟩, connection _ _ _ _ .start, ?_, ?_⟩
  · refine (single two stray).1 fun id named => ?_
    cases third.symm.trans named
    exact ⟨rfl, rfl⟩
  · exact ((single two refusal).2 _ second).1 (.text "1") (by decide) |>.1

end Sample

end Router

end Tendermint
