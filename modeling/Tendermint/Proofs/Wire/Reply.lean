import Tendermint.Socket.Router

/-!
# Tendermint.Proofs.Wire.Reply

What the identifier of an envelope decides. The envelope of an object is read as a whole, with an
identifier that may be absent; whose answer it is, a look at the member alone finds out. The
two go together: a result has the identifier that the look finds.

* `Reply.ofJson_named`, `Reply.ofJson_nameless`, `Reply.ofJson_misnamed`: an envelope by what the
  look finds.
* `Reply.named_of_ofJson`, `Reply.id_of_outcomeOf`: whose result it is.
* `Reply.answerTo_named`, `Reply.answerTo_other`: the answer to a request with an exchange of its
  own.
-/

namespace Tendermint

theorem Json.lookup_eq (key : String) (members : Json.Members) :
    List.lookup key members = Json.Members.lookup key members := by
  induction members with
  | nil => rfl
  | cons member rest ih =>
    obtain ⟨k, v⟩ := member
    by_cases h : k = key
    · simp [Json.Members.lookup, h]
    · have away : (key == k) = false := by simpa using Ne.symm h
      simp [List.lookup_cons, Json.Members.lookup, h, away, ih]

namespace Frame

theorem present_lookup (members : Json.Members) (key : String) :
    present (List.lookup key members) = (Json.object members).get? key := by
  rw [Json.lookup_eq, Json.get?, Json.member?, Json.members]
  cases members.lookup key with
  | none => rfl
  | some value => cases value <;> rfl

theorem readId_eq (value : Option Json) :
    readId value =
      match present value with
      | none => .ok none
      | some value =>
        match RequestId.ofJson? value with
        | some id => .ok (some id)
        | none => .error .noIdentifier := by
  cases value with
  | none => rfl
  | some value => cases value <;> rfl

/-- The envelope in an object, with an identifier or without one. -/
def ofObject (frame : Json) (id : Option RequestId) : Frame :=
  ⟨id, frame.get? "result", frame.get? "error"⟩

end Frame

theorem Router.frameId?_eq (frame : Json) :
    frameId? frame = (frame.get? "id").bind RequestId.ofJson? := by
  rw [frameId?, Json.get?]
  cases frame.member? "id" with
  | none => rfl
  | some value => cases value <;> rfl

namespace Reply

variable {members : Json.Members} {id : RequestId} {body : String} {json : Json}
  {answer : Success}

theorem ofJson_named (named : Router.frameId? (.object members) = some id) :
    ofJson (.object members) = ofFrame (.ofObject (.object members) (some id)) := by
  rw [Router.frameId?_eq] at named
  obtain ⟨value, found, read⟩ := Option.bind_eq_some_iff.1 named
  rw [ofJson, Frame.ofJson, Frame.readId_eq, Frame.present_lookup, Frame.present_lookup,
    Frame.present_lookup, found]
  dsimp only
  rw [read]
  rfl

theorem ofJson_nameless (nameless : (Json.object members).get? "id" = none) :
    ofJson (.object members) = ofFrame (.ofObject (.object members) none) := by
  rw [ofJson, Frame.ofJson, Frame.readId_eq, Frame.present_lookup, Frame.present_lookup,
    Frame.present_lookup, nameless]
  rfl

theorem ofJson_misnamed {value : Json} (found : (Json.object members).get? "id" = some value)
    (unread : RequestId.ofJson? value = none) :
    ofJson (.object members) = .error (.malformedFrame .noIdentifier) := by
  rw [ofJson, Frame.ofJson, Frame.readId_eq, Frame.present_lookup, found]
  dsimp only
  rw [unread]

theorem outcomeOf_nameless (result error : Option Json) (answer : Success) :
    outcomeOf (ofFrame ⟨none, result, error⟩) ≠ .ok answer := by
  cases error with
  | some error => rintro ⟨⟩
  | none => cases result <;> rintro ⟨⟩

/-- A result has the identifier of its frame. -/
theorem id_of_outcomeOf (named : Router.frameId? json = some id)
    (success : outcomeOf (ofJson json) = .ok answer) : answer.id = id := by
  cases json with
  | object members =>
    rw [ofJson_named named, Frame.ofObject] at success
    cases error : (Json.object members).get? "error" with
    | some value =>
      rw [error] at success
      cases success
    | none =>
      cases result : (Json.object members).get? "result" with
      | none =>
        rw [error, result] at success
        cases success
      | some value =>
        rw [error, result] at success
        cases success
        rfl
  | _ => cases named

/-- A result comes with an identifier, its own. -/
theorem named_of_ofJson (success : outcomeOf (ofJson (.object members)) = .ok answer) :
    Router.frameId? (.object members) = some answer.id := by
  cases found : (Json.object members).get? "id" with
  | none =>
    rw [ofJson_nameless found] at success
    exact absurd success (outcomeOf_nameless _ _ _)
  | some value =>
    cases read : RequestId.ofJson? value with
    | none =>
      rw [ofJson_misnamed found read] at success
      cases success
    | some id =>
      have named : Router.frameId? (.object members) = some id := by
        rw [Router.frameId?_eq, found, Option.bind_some, read]
      rw [named, id_of_outcomeOf named success]

/-- An error counts whatever its identifier is, as long as it is one. -/
theorem outcomeOf_error {error : Json}
    (failed : (Json.object members).get? "error" = some error)
    (readable : (Json.object members).get? "id" = none ∨
      (Router.frameId? (.object members)).isSome = true) :
    outcomeOf (ofJson (.object members)) =
      .error (.server (ServerError.ofJson error).code (ServerError.ofJson error).message
        (ServerError.ofJson error).data) := by
  obtain nameless | named := readable
  · rw [ofJson_nameless nameless, Frame.ofObject, failed]
    rfl
  · obtain ⟨id, named⟩ := Option.isSome_iff_exists.1 named
    rw [ofJson_named named, Frame.ofObject, failed]
    rfl

theorem answerTo_eq (read : Json.ofText? body = some json) (id : RequestId) :
    answerTo id body =
      match outcomeOf (ofJson json) with
      | .error e => .error e
      | .ok answer =>
        if answer.id = id then .ok answer else .error (.invalidReply (.otherId answer.id id)) := by
  cases outcome : outcomeOf (ofJson json) <;> simp only [answerTo, ofText, read, outcome]

theorem answerTo_named (read : Json.ofText? body = some json)
    (named : Router.frameId? json = some id) : answerTo id body = outcomeOf (ofJson json) := by
  rw [answerTo_eq read]
  cases outcome : outcomeOf (ofJson json) with
  | error e => rfl
  | ok answer => exact if_pos (id_of_outcomeOf named outcome)

theorem answerTo_other (read : Json.ofText? body = some (.object members))
    (other : Router.frameId? (.object members) ≠ some id) : answerTo id body ≠ .ok answer := by
  rw [answerTo_eq read]
  cases outcome : outcomeOf (ofJson (.object members)) with
  | error e => rintro ⟨⟩
  | ok found =>
    have away : found.id ≠ id := by
      rintro rfl
      exact other (named_of_ofJson outcome)
    dsimp only
    rw [if_neg away]
    rintro ⟨⟩

end Reply

end Tendermint
