import Tendermint.Client.Network
import Tendermint.Proofs.Socket.Correlation

/-!
# Tendermint.Proofs.Client.Transports

The two kinds of transport agree on what an answer says. Over HTTP the envelope is read first and
its identifier compared with that of the request at the end; a socket looks the identifier up first,
to find out who waits, and reads the envelope then. A frame with the identifier of a request comes
to the same on both. One without it never succeeds over HTTP, and on a socket it does not touch the
request that waits.

* `Router.without`: a router that knows nothing of a request.
* `transports_agree`.
-/

namespace Tendermint

/-! ## Requests that wait -/

namespace Router

variable {router : Router} {id other : RequestId} {frame : Json} {text : String}

/-- A router that does not know of a request that waits. -/
def without (id : RequestId) (router : Router) : Router :=
  { router with pending := router.pending.erase id }

/-- A frame for somebody else goes its way whether a request waits or not. -/
theorem route_without (away : other ≠ id) :
    (router.without id).route other frame =
      ((router.route other frame).1.without id, (router.route other frame).2) := by
  have kept : (router.without id).pending.get? other = router.pending.get? other := by
    rw [without, Table.get?_erase, if_neg away]
  ext1
  · rw [route_tables, route_tables, isRefused, kept]
    exact settle_comm id other false _ router
  · exact route_told kept rfl rfl

/-- The answer to a call. -/
theorem dispatch_call {number : Nat} (read : Json.ofText? text = some frame)
    (named : frameId? frame = some id) (waits : router.pending.get? id = some (.call number)) :
    router.dispatch text =
      (router.without id, [.answer number (Reply.outcomeOf (Reply.ofJson frame))]) := by
  rw [dispatch_eq read, named]
  dsimp only
  rw [route, waits]
  rfl

/-- Any other frame goes its way whether the call waits or not, and the call goes on waiting. -/
theorem dispatch_without (router : Router) (read : Json.ofText? text = some frame)
    (away : frameId? frame ≠ some id) :
    (router.dispatch text).1.pending.get? id = router.pending.get? id ∧
      (router.without id).dispatch text =
        ((router.dispatch text).1.without id, (router.dispatch text).2) := by
  rw [dispatch_eq read, dispatch_eq read]
  cases named : frameId? frame with
  | none => exact ⟨rfl, rfl⟩
  | some other =>
    have apart : other ≠ id := fun same => away (same ▸ named)
    refine ⟨?_, route_without apart⟩
    rw [route_tables, pending_settle, if_neg apart.symm]

end Router

namespace Socket

/-- Whoever waits takes the answer that comes for it. -/
theorem resumes_with {s : Socket} {frame : SocketFrame} {text : String} {number : Nat}
    {caller : Caller} {since : Duration} {router : Router} {outcome : Except RpcError Success}
    (phase : s.phase = .running) (content : frame.text? = some text)
    (found : s.callers[number]? = some caller) (stage : caller.stage = .waiting since)
    (empty : caller.answer = .empty)
    (answered : s.router.dispatch text = (router, [.answer number outcome])) :
    ∃ t u, s.step (.receive frame) = some t ∧ t.step (.resume number) = some u ∧
      u.HasOutcome number outcome := by
  have awaits : caller.awaits = true := by rw [Caller.awaits, stage]
  have received : s.step (.receive frame) = some (s.receive frame) := by
    simp only [step, Action.caller?, taskStep, phase]
  have filled : (s.receive frame).callers[number]? =
      some { caller with answer := .filled outcome } := by
    rw [receive, content]
    dsimp only
    rw [answered, withRouter, getElem?_deliver]
    simp [found, Caller.reached, Delivery.reach, Delivery.caller, Caller.answered, empty, awaits]
  refine ⟨_, (s.receive frame).modifyCaller number (Caller.resolve outcome), received, ?_, ?_⟩
  · simp only [step, Action.caller?, filled, callerStep, stage, outcome?]
  · refine ⟨Caller.resolve outcome { caller with answer := .filled outcome }, ?_, rfl⟩
    rw [getElem?_modifyCaller, if_pos rfl, filled, Option.map_some]

end Socket

/-- The transports agree. Take a text that is an object, as the body that comes back for a request
over HTTP and as a frame on a socket on which a call with the same identifier waits. With the
identifier of the request it brings the caller the same outcome on both, and nothing else happens.
Without one, with one that is none or with another, the request over HTTP does not succeed, though
an error is reported as that unless its identifier is one that is none; and on the socket the call
goes on waiting, and the frame does what it does where no such call waits. A number is never the
identifier that a string is. -/
theorem transports_agree {σ : Type} {network : Network σ} {transport : Transport}
    {request : Request} {s t : σ} {body : String} {members : Json.Members} {router : Router}
    {number : Nat} (plain : transport.streaming = false)
    (posted : network.post transport.url request s = (.ok body, t))
    (object : Json.ofText? body = some (.object members))
    (waits : router.pending.get? request.id = some (.call number)) :
    ∃ outcome, network.execute transport request s = (outcome, t) ∧
      (Router.frameId? (.object members) = some request.id →
        router.dispatch body = (router.without request.id, [.answer number outcome]) ∧
        ∀ (socket : Socket) frame caller since, socket.router = router →
          socket.phase = .running → frame.text? = some body →
          socket.callers[number]? = some caller → caller.stage = .waiting since →
          caller.answer = .empty →
          ∃ after last, socket.step (.receive frame) = some after ∧
            after.step (.resume number) = some last ∧ last.HasOutcome number outcome) ∧
      (Router.frameId? (.object members) ≠ some request.id →
        (∀ answer, outcome ≠ .ok answer) ∧
        (∀ error, (Json.object members).get? "error" = some error →
          (Json.object members).get? "id" = none ∨
            (Router.frameId? (.object members)).isSome = true →
          outcome = .error (.server (ServerError.ofJson error).code
            (ServerError.ofJson error).message (ServerError.ofJson error).data)) ∧
        (router.dispatch body).1.pending.get? request.id = some (.call number) ∧
        (router.without request.id).dispatch body =
          ((router.dispatch body).1.without request.id, (router.dispatch body).2)) ∧
      (∀ n text, request.id = .number n →
        (Json.object members).get? "id" = some (.string text) →
        Router.frameId? (.object members) ≠ some request.id) ∧
      ∀ text n, request.id = .text text → (Json.object members).get? "id" = some (.number n) →
        Router.frameId? (.object members) ≠ some request.id := by
  have executed : network.execute transport request s = (Reply.answerTo request.id body, t) := by
    rw [Network.execute, if_neg (by simp [plain]), posted]
  refine ⟨_, executed, ?_, ?_, ?_, ?_⟩
  · intro named
    rw [Reply.answerTo_named object named]
    have answered := Router.dispatch_call object named waits
    refine ⟨answered, ?_⟩
    rintro socket frame caller since rfl phase content found stage empty
    exact Socket.resumes_with phase content found stage empty answered
  · intro away
    obtain ⟨kept, unmoved⟩ := Router.dispatch_without router object away
    refine ⟨fun answer => Reply.answerTo_other object away, ?_, kept.trans waits, unmoved⟩
    intro error failed readable
    rw [Reply.answerTo_eq object, Reply.outcomeOf_error failed readable]
  · intro n text named found
    rw [Router.frameId?_eq, found, named]
    rintro ⟨⟩
  · intro text n named found
    rw [Router.frameId?_eq, found, named]
    cases n with
    | integer n =>
      rw [Option.bind_some, RequestId.ofJson?]
      split <;> rintro ⟨⟩
    | real => rintro ⟨⟩

section Sample

/-- A network that answers every request over HTTP with one body. -/
def Network.answering (body : String) : Network Unit :=
  { Network.unreachable with post := fun _ _ s => (.ok body, s) }

/-- A request with a number. -/
def Request.five : Request := ⟨.number 5, "health", []⟩

/-- A socket on which a call with that number waits. -/
def Router.five : Router := ⟨Table.empty.insert (.number 5) (.call 0), .empty⟩

/-- The request is answered by a frame with its number and not by one with the text. -/
theorem transports_agree_on_five :
    (∃ outcome, (Network.answering "\x7b\"id\":5,\"result\":true\x7d").execute ⟨"", false⟩
        .five () = (outcome, ()) ∧
      Router.five.dispatch "\x7b\"id\":5,\"result\":true\x7d" =
        (Router.five.without (.number 5), [.answer 0 outcome])) ∧
    ∃ outcome, (Network.answering "\x7b\"id\":\"5\",\"error\":\"no\"\x7d").execute ⟨"", false⟩
        .five () = (outcome, ()) ∧
      outcome = .error (.server 0 "non-standard JSON-RPC error: \"no\"" none) ∧
      (Router.five.dispatch "\x7b\"id\":\"5\",\"error\":\"no\"\x7d").1.pending.get? (.number 5) =
        some (.call 0) := by
  have waits : Router.five.pending.get? Request.five.id = some (.call 0) := rfl
  have posted (body : String) : (Network.answering body).post "" .five () = (.ok body, ()) := rfl
  have plain : Transport.streaming ⟨"", false⟩ = false := rfl
  have number : Json.ofText? "\x7b\"id\":5,\"result\":true\x7d" =
      some (.object [("id", .nat 5), ("result", .bool true)]) := rfl
  have text : Json.ofText? "\x7b\"id\":\"5\",\"error\":\"no\"\x7d" =
      some (.object [("error", .string "no"), ("id", .string "5")]) := rfl
  constructor
  · obtain ⟨outcome, executed, same, -⟩ := transports_agree plain (posted _) number waits
    exact ⟨outcome, executed, (same rfl).1⟩
  · obtain ⟨outcome, executed, -, other, -⟩ := transports_agree plain (posted _) text waits
    obtain ⟨-, reported, kept, -⟩ := other (by decide)
    exact ⟨outcome, executed, reported _ rfl (.inr rfl), kept⟩

end Sample

end Tendermint
