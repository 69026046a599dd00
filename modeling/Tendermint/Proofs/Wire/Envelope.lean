import Tendermint.Proofs.Json.Fields
import Tendermint.Proofs.Wire.Reply

/-!
# Tendermint.Proofs.Wire.Envelope

What an envelope is. Its members stand in an object or in a list, and what they are decides alone:
an error makes it a failure, otherwise a result with an identifier makes it a success, and with
neither it is no reply. What the caller is told of a failure is what the node reports, in full.

* `Json.IsRecord`, `Json.slot?`: structures that stand as objects or lists, and their members.
* `ServerError.Reports`: what an error value reports.
* `Reply.IsFailure`, `Reply.IsSuccess`, `Reply.NoReply`: what an envelope may be.
* `envelopes_are_classified`.
-/

namespace Tendermint

namespace Json

/-- A structure of at most so many members, as an object or as the list of its members. -/
def IsRecord (size : Nat) : Json → Prop
  | .object _ => True
  | .array items => items.length ≤ size
  | _ => False

/-- A member of a structure, by its name in an object and by its place in a list. A `null` counts as
absent. -/
def slot? (value : Json) (name : String) (place : Nat) : Option Json :=
  match value with
  | .array items => items[place]?.bind unlessNull
  | other => other.get? name

/-- A text as it is, and any other value as its JSON. -/
def plain : Json → String
  | .string text => text
  | other => other.compact

theorem unlessNull_eq_some {value shown : Json} (there : shown ≠ .null) :
    unlessNull value = some shown ↔ value = shown := by
  refine ⟨eq_of_unlessNull, ?_⟩
  rintro rfl
  exact unlessNull_of_ne there

@[simp] theorem slot?_object (members : Members) (name : String) (place : Nat) :
    (Json.object members).slot? name place = (Json.object members).get? name := rfl

@[simp] theorem slot?_array (items : List Json) (name : String) (place : Nat) :
    (Json.array items).slot? name place = items[place]?.bind unlessNull := rfl

end Json

namespace RequestId

/-- An identifier is a natural number of 64 bits or a string. -/
theorem ofJson?_eq_some {value : Json} {id : RequestId} :
    ofJson? value = some id ↔ value = id.toJson := by
  constructor
  · intro read
    unfold ofJson? at read
    split at read
    · next n =>
      obtain ⟨inside, same⟩ := Option.ite_none_right_eq_some.1 read
      cases same
      have small : n.toNat < UInt64.size := by omega
      rw [toJson, UInt64.toNat_ofNat_of_lt' small, Json.nat, Int.toNat_of_nonneg inside.1]
    · cases read
      rfl
    · cases read
  · rintro rfl
    cases id with
    | text s => rfl
    | number n =>
      have inside : 0 ≤ (n.toNat : Int) ∧ (n.toNat : Int) < UInt64.size :=
        ⟨Int.natCast_nonneg _, Int.ofNat_lt.2 n.toNat_lt⟩
      rw [toJson, Json.nat, ofJson?, if_pos inside, Int.toNat_natCast, UInt64.ofNat_toNat]

theorem toJson_injective : Function.Injective toJson := fun _ _ same =>
  Option.some.inj ((ofJson?_eq_some.2 rfl).symm.trans (ofJson?_eq_some.2 same))

end RequestId

namespace Frame

theorem present_eq (content : Option Json) : present content = content.bind Json.unlessNull := by
  cases content with
  | none => rfl
  | some value => cases value <;> rfl

theorem readId_eq_ok {content : Option Json} {id : Option RequestId} :
    readId content = .ok id ↔ content.bind Json.unlessNull = id.map RequestId.toJson := by
  rw [readId_eq, present_eq]
  cases content.bind Json.unlessNull with
  | none => cases id <;> simp
  | some value =>
    dsimp only
    cases read : RequestId.ofJson? value with
    | none =>
      refine iff_of_false (by rintro ⟨⟩) fun same => ?_
      obtain ⟨known, -, rfl⟩ := Option.map_eq_some_iff.1 same.symm
      cases read.symm.trans (RequestId.ofJson?_eq_some.2 rfl)
    | some known =>
      obtain rfl := RequestId.ofJson?_eq_some.1 read
      have apart := Option.map_injective RequestId.toJson_injective
      rw [Except.ok.injEq, ← Option.map_some, apart.eq_iff]

/-- An envelope is read from a structure of three members whose identifier is one, if there is
any. -/
theorem ofJson_eq_ok {value : Json} {frame : Frame} :
    ofJson value = .ok frame ↔
      value.IsRecord 3 ∧ value.slot? "id" 0 = frame.id.map RequestId.toJson ∧
        frame.result = value.slot? "result" 1 ∧ frame.error = value.slot? "error" 2 := by
  obtain ⟨id, result, error⟩ := frame
  cases value with
  | object members =>
    have identified := @readId_eq_ok (List.lookup "id" members) id
    rw [← present_eq, present_lookup] at identified
    simp only [Json.slot?_object]
    rw [ofJson, ← identified, present_lookup, present_lookup]
    cases readId (List.lookup "id" members) with
    | error e => simp
    | ok known => simp [Json.IsRecord, eq_comm]
  | array items =>
    simp only [Json.slot?_array]
    rw [ofJson, ← readId_eq_ok, present_eq, present_eq]
    cases readId items[0]? with
    | error e => simp
    | ok known =>
      dsimp only
      split
      · next long =>
        exact iff_of_false (by rintro ⟨⟩) fun inside => Nat.not_le_of_lt long inside.1
      · next short => simp [Json.IsRecord, Nat.not_lt.1 short, eq_comm]
  | _ => exact iff_of_false (by rintro ⟨⟩) And.left

end Frame

namespace ServerError

variable {value : Json} {error : ServerError}

/-- The value has the shape of an error: a code of 64 bits, a message, and data or none. -/
structure Standard (value : Json) (error : ServerError) : Prop where
  shape : value.IsRecord 3
  code : value.slot? "code" 0 = some (.number (.integer error.code.toInt))
  message : value.slot? "message" 1 = some (.string error.message)
  data : error.data = (value.slot? "data" 2).map Json.plain

/-- What a value reports: the error it has the shape of, or if it has none, itself. -/
def Reports (value : Json) (error : ServerError) : Prop :=
  Standard value error ∨
    (∀ other, ¬Standard value other) ∧ error.code = 0 ∧ error.data = none ∧
      error.message = "non-standard JSON-RPC error: " ++ value.compact

theorem code?_eq_some {code : Int64} :
    code? value = some code ↔ value = .number (.integer code.toInt) := by
  constructor
  · intro read
    unfold code? at read
    split at read
    · next n =>
      obtain ⟨inside, same⟩ := Option.ite_none_right_eq_some.1 read
      cases same
      rw [Int64.toInt_ofInt_of_le inside.1 (Int.lt_add_one_iff.2 inside.2)]
    · cases read
  · rintro rfl
    rw [code?, if_pos ⟨code.minValue_le_toInt, code.toInt_le⟩, Int64.ofInt_toInt]

theorem dataText_eq (data : Option Json) :
    dataText data = (data.bind Json.unlessNull).map Json.plain := by
  cases data with
  | none => rfl
  | some value => cases value <;> rfl

theorem standard?_eq_some {code message data : Option Json} :
    standard? code message data = some error ↔
      code = some (.number (.integer error.code.toInt)) ∧ message = some (.string error.message) ∧
        error.data = (data.bind Json.unlessNull).map Json.plain := by
  have coded : code.bind code? = some error.code ↔
      code = some (.number (.integer error.code.toInt)) := by
    simp [Option.bind_eq_some_iff, code?_eq_some]
  rw [← coded, ← dataText_eq]
  unfold standard?
  split
  · next number text known =>
    obtain ⟨_, _, _⟩ := error
    simp [known, eq_comm]
  · next unread =>
    refine iff_of_false (by rintro ⟨⟩) ?_
    rintro ⟨known, worded, -⟩
    exact unread _ _ known worded

theorem getD_eq_iff {found : Option ServerError} (known : ∀ e, found = some e ↔ Standard value e) :
    found.getD (nonStandard value) = error ↔ Reports value error := by
  cases found with
  | none =>
    have none (e : ServerError) : ¬Standard value e := fun shape => by cases (known e).2 shape
    obtain ⟨code, message, data⟩ := error
    simp [Reports, none, nonStandard, eq_comm, and_comm]
  | some e =>
    have shape := (known e).1 rfl
    rw [Option.getD_some]
    constructor
    · rintro rfl
      exact .inl shape
    · rintro (other | ⟨none, -⟩)
      · exact Option.some.inj ((known error).2 other)
      · exact absurd shape (none e)

/-- The members of an error are read as the slots of its value. -/
theorem standard?_slots {code message data : Option Json} (shape : value.IsRecord 3)
    (first : value.slot? "code" 0 = code.bind Json.unlessNull)
    (second : value.slot? "message" 1 = message.bind Json.unlessNull)
    (third : value.slot? "data" 2 = data.bind Json.unlessNull) :
    standard? code message data = some error ↔ Standard value error := by
  have bound (content : Option Json) {v : Json} (there : v ≠ .null) :
      content = some v ↔ content.bind Json.unlessNull = some v := by
    simp [Option.bind_eq_some_iff, Json.unlessNull_eq_some there]
  rw [standard?_eq_some, bound code (by simp), bound message (by simp), ← first, ← second, ← third]
  constructor
  · rintro ⟨coded, worded, kept⟩
    exact ⟨shape, coded, worded, kept⟩
  · rintro ⟨-, coded, worded, kept⟩
    exact ⟨coded, worded, kept⟩

/-- What is made of an error value is what it reports. -/
theorem ofJson_eq_iff : ofJson value = error ↔ Reports value error := by
  cases value with
  | object members =>
    have slot (name : String) (place : Nat) : (Json.object members).slot? name place =
        (List.lookup name members).bind Json.unlessNull := by
      rw [Json.slot?_object, ← Frame.present_lookup, Frame.present_eq]
    exact getD_eq_iff fun e => standard?_slots trivial (slot ..) (slot ..) (slot ..)
  | array items =>
    refine getD_eq_iff fun e => ?_
    change (if 3 < items.length then none else _) = some e ↔ _
    split
    · next long =>
      exact iff_of_false (by rintro ⟨⟩) fun shape => Nat.not_le_of_lt long shape.shape
    · next short => exact standard?_slots (Nat.not_lt.1 short) rfl rfl rfl
  | _ =>
    exact getD_eq_iff fun e =>
      iff_of_false (fun read : none = some e => by cases read) Standard.shape

end ServerError

namespace Reply

variable {value : Json} {id : Option RequestId} {error : ServerError} {answer : Success}

/-- An envelope with an error, and with an identifier or none. -/
structure IsFailure (value : Json) (id : Option RequestId) (error : ServerError) : Prop where
  shape : value.IsRecord 3
  id : value.slot? "id" 0 = id.map RequestId.toJson
  error : ∃ reported, value.slot? "error" 2 = some reported ∧ ServerError.Reports reported error

/-- An envelope with a result and an identifier, and without an error. -/
structure IsSuccess (value : Json) (answer : Success) : Prop where
  shape : value.IsRecord 3
  id : value.slot? "id" 0 = some answer.id.toJson
  result : value.slot? "result" 1 = some answer.result
  error : value.slot? "error" 2 = none

/-- Why a value is no reply. -/
inductive NoReply (value : Json) : Prop where
  /-- It is neither an object nor a list of at most three items. -/
  | shapeless (other : ¬value.IsRecord 3)
  | misnamed (id : Json) (there : value.slot? "id" 0 = some id)
      (wrong : ∀ known : RequestId, id ≠ known.toJson)
  | empty (result : value.slot? "result" 1 = none) (error : value.slot? "error" 2 = none)
  | nameless (id : value.slot? "id" 0 = none) (error : value.slot? "error" 2 = none)

theorem ofFrame_eq_failure {frame : Frame} :
    ofFrame frame = .ok (.failure id error) ↔
      frame.id = id ∧
        ∃ reported, frame.error = some reported ∧ ServerError.ofJson reported = error := by
  obtain ⟨named, result, failed⟩ := frame
  cases failed with
  | some reported => simp [ofFrame]
  | none => cases result <;> cases named <;> simp [ofFrame]

theorem ofFrame_eq_success {frame : Frame} :
    ofFrame frame = .ok (.success answer) ↔
      frame.error = none ∧ frame.result = some answer.result ∧ frame.id = some answer.id := by
  obtain ⟨named, result, failed⟩ := frame
  obtain ⟨id, value⟩ := answer
  cases failed with
  | some reported => simp [ofFrame]
  | none => cases result <;> cases named <;> simp [ofFrame, and_comm]

theorem ofJson_eq_ok {reply : Reply} :
    ofJson value = .ok reply ↔
      ∃ frame, Frame.ofJson value = .ok frame ∧ ofFrame frame = .ok reply := by
  rw [ofJson]
  cases Frame.ofJson value <;> simp

theorem ofJson_eq_failure : ofJson value = .ok (.failure id error) ↔ IsFailure value id error := by
  simp only [ofJson_eq_ok, ofFrame_eq_failure, Frame.ofJson_eq_ok, ServerError.ofJson_eq_iff]
  constructor
  · rintro ⟨frame, ⟨shape, named, -, failed⟩, rfl, reported⟩
    exact ⟨shape, named, failed ▸ reported⟩
  · rintro ⟨shape, named, reported⟩
    let frame : Frame := ⟨id, value.slot? "result" 1, value.slot? "error" 2⟩
    exact ⟨frame, ⟨shape, named, rfl, rfl⟩, rfl, reported⟩

theorem ofJson_eq_success : ofJson value = .ok (.success answer) ↔ IsSuccess value answer := by
  simp only [ofJson_eq_ok, ofFrame_eq_success, Frame.ofJson_eq_ok]
  constructor
  · rintro ⟨frame, ⟨shape, named, result, failed⟩, error, found, known⟩
    exact ⟨shape, named.trans (congrArg _ known), result ▸ found, failed ▸ error⟩
  · rintro ⟨shape, named, result, error⟩
    let frame : Frame := ⟨some answer.id, some answer.result, none⟩
    exact ⟨frame, ⟨shape, named, result.symm, error.symm⟩, rfl, rfl, rfl⟩

/-- A value that is no reply is not one. -/
theorem NoReply.not_ok (none : NoReply value) (reply : Reply) : ofJson value ≠ .ok reply := by
  intro read
  cases reply with
  | failure id error =>
    obtain ⟨shape, named, reported, failed, -⟩ := ofJson_eq_failure.1 read
    cases none with
    | shapeless other => exact other shape
    | misnamed v there wrong =>
      obtain ⟨known, -, same⟩ := Option.map_eq_some_iff.1 (named.symm.trans there)
      exact wrong known same.symm
    | empty _ error => cases failed.symm.trans error
    | nameless _ error => cases failed.symm.trans error
  | success answer =>
    obtain ⟨shape, named, result, -⟩ := ofJson_eq_success.1 read
    cases none with
    | shapeless other => exact other shape
    | misnamed v there wrong => exact wrong answer.id (Option.some.inj (there.symm.trans named))
    | empty absent _ => cases result.symm.trans absent
    | nameless absent _ => cases named.symm.trans absent

/-- A value that is neither a failure nor a success is no reply. -/
theorem noReply_of_error (failed : ∀ reply, ofJson value ≠ .ok reply) : NoReply value := by
  obtain other | shape := (Classical.em (value.IsRecord 3)).symm
  · exact .shapeless other
  obtain named | ⟨id, named⟩ :=
    (Classical.em (∃ id : Option RequestId, value.slot? "id" 0 = id.map RequestId.toJson)).symm
  · cases there : value.slot? "id" 0 with
    | none => exact absurd ⟨none, there⟩ named
    | some v =>
      refine .misnamed v there fun known same => named ⟨some known, ?_⟩
      rw [there, same, Option.map_some]
  cases error : value.slot? "error" 2 with
  | some reported =>
    have failure : IsFailure value id (ServerError.ofJson reported) :=
      ⟨shape, named, reported, error, ServerError.ofJson_eq_iff.1 rfl⟩
    exact absurd (ofJson_eq_failure.2 failure) (failed _)
  | none =>
    cases result : value.slot? "result" 1 with
    | none => exact .empty result error
    | some found =>
      cases id with
      | none => exact .nameless named error
      | some known =>
        have succeeded : IsSuccess value ⟨known, found⟩ := ⟨shape, named, result, error⟩
        exact absurd (ofJson_eq_success.2 succeeded) (failed _)

theorem ofJson_eq_error : (∃ fault, ofJson value = .error fault) ↔ NoReply value := by
  constructor
  · rintro ⟨fault, failed⟩
    exact noReply_of_error fun reply read => by cases failed.symm.trans read
  · intro none
    cases read : ofJson value with
    | error fault => exact ⟨fault, rfl⟩
    | ok reply => exact absurd read (none.not_ok reply)

/-- Every value is a failure, a success or no reply, by its members alone; an error makes it a
failure whatever its result is. The caller of a failure is told what the node reports, and gets a
result from a success only. -/
theorem envelopes_are_classified (value : Json) :
    (∀ id error, ofJson value = .ok (.failure id error) ↔ IsFailure value id error) ∧
    (∀ answer, ofJson value = .ok (.success answer) ↔ IsSuccess value answer) ∧
    ((∃ fault, ofJson value = .error fault) ↔ NoReply value) ∧
    (∀ code message data, outcomeOf (ofJson value) = .error (.server code message data) ↔
      ∃ id, IsFailure value id ⟨code, message, data⟩) ∧
    (∀ answer, outcomeOf (ofJson value) = .ok answer ↔ IsSuccess value answer) ∧
    ((∃ fault, outcomeOf (ofJson value) = .error (.invalidReply fault)) ↔ NoReply value) := by
  simp only [← ofJson_eq_failure, ← ofJson_eq_success, ← ofJson_eq_error]
  cases ofJson value with
  | error fault => simp [outcomeOf]
  | ok reply =>
    cases reply with
    | success answer => simp [outcomeOf, outcome]
    | failure id error =>
      obtain ⟨code, message, data⟩ := error
      simp [outcomeOf, outcome]

end Reply

end Tendermint
