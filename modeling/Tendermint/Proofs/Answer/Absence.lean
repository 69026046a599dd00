import Tendermint.Proofs.Answer.Vacancies
import Tendermint.Proofs.Answer.Layout

/-!
# Tendermint.Proofs.Answer.Absence

What becomes of an accepted answer or event when it loses one member that is read, anywhere in it.
A member that has to be there is missed by its name; without one that may be absent, its own part
of the result is empty and all the rest is as it was.

* `Access.Loss`: what the reading comes to.
* `absent_members_are_missed_or_empty`.
-/

namespace Tendermint

open Json (Path Step)

/-- The groups of consensus parameters, each under either of two names. -/
def ConsensusParams.groups : List (List String) := [blockNames, evidenceNames]

/-- A member with a last resort: another one in the object that holds its own object behind some
members. -/
structure LastResort where
  key : String
  behind : List String
  last : String
  deriving DecidableEq, Repr

/-- The power of a validator under its other name, and the counters of a proof beside the inner
proof. -/
def lastResorts : List LastResort :=
  [⟨"voting_power", [], "power"⟩, ⟨"total", ["Proof"], "Total"⟩, ⟨"index", ["Proof"], "Index"⟩]

/-- What a reading comes to when it loses the member `key` of the object at the path. A member with
another spelling or another place is only missed where that is absent as well. -/
def Access.Loss {α : Type} {schema : Schema α} (access : Access) (vacancies : List (Vacancy schema))
    (value : Json) (path : Path) (key : String) (a : α) (outcome : Except DecodeError α) : Prop :=
  match access.need with
  | .optional =>
    ∃ vacancy ∈ vacancies, vacancy.place = path.map Step.turn ∧ vacancy.key = key ∧
      outcome = .ok (vacancy.clear (Json.indices path) a)
  | .required names =>
    names = [key] ∧ outcome = .error (.missingField key) ∨
      names ∈ ConsensusParams.groups ∧ key ∈ names ∧
        ((∀ other ∈ names, other ≠ key → value.find? (path ++ [.member other]) = none) →
          outcome = .error (.missingField (String.intercalate " | " names)))
  | .instead place names =>
    ∃ resort ∈ lastResorts, resort.key = key ∧ names = [resort.last] ∧
      path = place ++ resort.behind.map Step.member ∧
      (value.find? (place ++ [.member resort.last]) = none →
        outcome = .error (.missingField resort.last))

/-- A demand of one of the kinds that there are, with its part of the result if there is one. -/
def Demand.Known {α : Type} {schema : Schema α} (vacancies : List (Vacancy schema))
    (demand : Demand) : Prop :=
  match demand.need with
  | .optional => ∃ vacancy ∈ vacancies, vacancy.place = demand.place ∧ vacancy.key = demand.key
  | .required names =>
    names = [demand.key] ∨ names ∈ ConsensusParams.groups ∧ demand.key ∈ names
  | .instead place names =>
    ∃ resort ∈ lastResorts, resort.key = demand.key ∧ names = [resort.last] ∧
      demand.place = place ++ resort.behind.map Turn.member

instance {α : Type} {schema : Schema α} (vacancies : List (Vacancy schema)) (demand : Demand) :
    Decidable (demand.Known vacancies) := by
  unfold Demand.Known
  split <;> infer_instance

/-- All that a schema asks for is known, and no reading needs what may be empty. -/
structure Schema.Covered {α : Type} (schema : Schema α) (vacancies : List (Vacancy schema)) :
    Prop where
  regular : schema.Regular
  known : ∀ demand ∈ schema.demands, demand.Known vacancies
  loose : ∀ vacancy ∈ vacancies, schema.loose vacancy.place vacancy.key = true

section Loss

variable {α : Type} {schema : Schema α} {vacancies : List (Vacancy schema)} {name key : String}
  {value : Json} {path : Path} {content : Option Json} {access : Access} {a : α}
  {members : Json.Members}

/-- The lost member is not found in the changed value. -/
theorem Json.find?_edit_lost (here : value.find? path = some (.object members))
    (gone : content.bind unlessNull = none) :
    (value.edit path key content).find? (path ++ [.member key]) = none := by
  rw [find?_append, find?_edit_self value path key content here, Option.bind_some, find?,
    get?_edit_nil_of_absent _ _ _ _ gone, if_pos rfl]
  rfl

theorem Schema.loss_of_access (covered : schema.Covered vacancies)
    (read : schema.decode name value = .ok a)
    (looked : schema.access name value path key = some access)
    (here : value.find? path = some (.object members))
    (gone : content.bind Json.unlessNull = none) :
    access.Loss vacancies value path key a (schema.decode name (value.edit path key content)) := by
  have decisive : schema.Decisive name value := decisive_of_decode covered.regular.settled read
  have outside := outside_of_access covered.regular.apart looked
  have known := covered.known _ (demand_of_access looked)
  have lost (names : List String) (need : access.need = .required names)
      (absent : ∀ n ∈ names, (value.edit path key content).find? (path ++ [.member n]) = none) :
      schema.decode name (value.edit path key content) =
        .error (.missingField (String.intercalate " | " names)) :=
    decisive outside looked here (.lost gone need absent)
  -- An optional member has its vacancy; any other one decides the reading with its error.
  obtain ⟨_ | names | ⟨place, names⟩, reader⟩ := access
  · obtain ⟨vacancy, listed, at_place, rfl⟩ : ∃ vacancy ∈ vacancies,
        vacancy.place = path.map Step.turn ∧ vacancy.key = key := known
    exact ⟨vacancy, listed, at_place, rfl, decode_edit_of_vacancy read outside gone vacancy
      at_place.symm (covered.loose vacancy listed)⟩
  · obtain rfl | ⟨group, mem⟩ : names = [key] ∨ names ∈ ConsensusParams.groups ∧ key ∈ names := known
    · refine .inl ⟨rfl, lost [key] rfl fun n hn => ?_⟩
      rw [List.mem_singleton.1 hn]
      exact Json.find?_edit_lost here gone
    · refine .inr ⟨group, mem, fun absent => lost names rfl fun n hn => ?_⟩
      by_cases same : n = key
      · rw [same]
        exact Json.find?_edit_lost here gone
      · exact Json.find?_edit_eq_none _ _ _ _ gone (absent n hn same)
  · obtain ⟨rest, rfl⟩ := prefix_of_access looked rfl
    obtain ⟨resort, listed, same, rfl, behind⟩ : ∃ resort ∈ lastResorts, resort.key = key ∧
        names = [resort.last] ∧ (place ++ rest).map Step.turn =
          place.map Step.turn ++ resort.behind.map Turn.member := known
    rw [List.map_append, List.append_cancel_left_eq] at behind
    refine ⟨resort, listed, same, rfl, ?_, fun absent => ?_⟩
    · obtain ⟨r, rfl, last⟩ := Json.eq_through (behind.trans (List.append_nil _).symm)
      rw [Json.through, List.map_eq_nil_iff.1 last, List.append_nil]
    · rw [decisive outside looked here (.lostInstead gone rfl fun n hn => ?_)]
      · rfl
      · rw [List.mem_singleton.1 hn]
        exact Json.find?_edit_eq_none _ _ _ _ gone absent

end Loss

variable {α : Type} (version : Version)

theorem Answer.covered (answer : Answer α) :
    (answer.schema version).Covered (answer.vacancies version) where
  regular := answer.regular version
  known := by cases answer <;> cases version <;> decide +kernel
  loose := by cases answer <;> cases version <;> decide +kernel

theorem Announcement.covered (announcement : Announcement α) :
    (announcement.payloadSchema version).Covered (announcement.vacancies version) where
  regular := announcement.regular version
  known := by cases announcement <;> cases version <;> decide +kernel
  loose := by cases announcement <;> cases version <;> decide +kernel

/-- The only member of a payload itself that is looked for is the subject. -/
theorem Announcement.eq_subject_of_access {announcement : Announcement α} {value : Json}
    {key : String} {access : Access}
    (looked : (announcement.payloadSchema version).access "value" value [] key = some access) :
    key = announcement.kind.subject := by
  obtain ⟨-, tried, -⟩ | ⟨_, _, _, _, ⟨⟩, -⟩ := Schema.access_member looked
  exact List.mem_singleton.1 (Schema.mem_of_tried tried)

/-- Whatever is accepted of an answer or an event, in both versions: when a member that is read
anywhere in it is removed or becomes `null`, a required member is missed by its name, and without
an optional one its part of the result is empty and the rest unchanged. An event without its subject
is unexpected. -/
theorem absent_members_are_missed_or_empty (version : Version) (value : Json)
    {content : Option Json} (gone : content = none ∨ content = some .null) :
    (∀ (α : Type) (answer : Answer α) (a : α) (path : Path) (key : String) (members : Json.Members)
      (access : Access), answer.read version value = .ok a →
      (answer.schema version).access "result" value path key = some access →
      value.find? path = some (.object members) →
      access.Loss (answer.vacancies version) value path key a
        (answer.read version (value.edit path key content))) ∧
    (∀ (α : Type) (announcement : Announcement α) (query : Option String) (kind : String) (a : α)
      (path : Path) (key : String) (members : Json.Members) (access : Access),
      announcement.read version ⟨query, kind, value⟩ = .ok a →
      (announcement.payloadSchema version).access "value" value path key = some access →
      value.find? path = some (.object members) →
      path = [] ∧ key = announcement.kind.subject ∧
          announcement.read version ⟨query, kind, value.edit path key content⟩ =
            .error (.unexpectedEvent kind key) ∨
        path ≠ [] ∧ access.Loss (announcement.vacancies version) value path key a
          (announcement.read version ⟨query, kind, value.edit path key content⟩)) := by
  have gone : content.bind Json.unlessNull = none := by
    obtain rfl | rfl := gone
    · rfl
    · rfl
  refine ⟨fun α answer a path key members access read looked here =>
      Schema.loss_of_access (answer.covered version) read looked here gone,
    fun α announcement query kind a path key members access read looked here => ?_⟩
  by_cases top : path = []
  · subst top
    obtain rfl := Announcement.eq_subject_of_access version looked
    refine .inl ⟨rfl, rfl, announcement.read_of_subject_eq_none version ?_⟩
    exact (Json.get?_edit_nil_of_absent value _ _ content gone).trans (if_pos rfl)
  · refine .inr ⟨top, ?_⟩
    rw [announcement.read_edit_of_ok version read fun none => absurd none top]
    exact Schema.loss_of_access (announcement.covered version)
      ((Announcement.read_eq_ok "value").1 read) looked here gone

section Sample

/-- An answer with a log loses the log or the hash, and an event loses its subject or the height
in it. -/
theorem lost_members_of_transactions :
    let answer := Inclusion.answer (.ofMembers [("log", .string "fine")]) (.object [])
    let event (value : Json) : Event := ⟨none, "tendermint/event/Tx", value⟩
    (∃ vacancy ∈ Answer.submitCommit.vacancies .v0_25, vacancy.key = "log" ∧
      Answer.submitCommit.read .v0_25 (answer.edit [.member "check_tx"] "log" none) =
        .ok (vacancy.clear [] ⟨none, ⟨[0]⟩, ⟨0, some "fine", none, none⟩,
          some ⟨0, none, none, none⟩⟩)) ∧
    Answer.submitCommit.read .v0_25 (answer.edit [] "hash" none) = .error (.missingField "hash") ∧
    Announcement.tx.read .v0_25 (event (TxEvent.emptyPayload.edit [] "TxResult" none)) =
      .error (.unexpectedEvent "tendermint/event/Tx" "TxResult") ∧
    Announcement.tx.read .v0_25 (event (TxEvent.emptyPayload.edit [.member "TxResult"] "height" none)) =
      .error (.missingField "height") := by
  intro answer event
  have read : Answer.submitCommit.read .v0_25 answer =
      .ok ⟨none, ⟨[0]⟩, ⟨0, some "fine", none, none⟩, some ⟨0, none, none, none⟩⟩ := rfl
  have announced : Announcement.tx.read .v0_25 (event TxEvent.emptyPayload) =
      .ok ⟨[], Version.v0_25.hashTx [], ⟨0, none, none, none⟩, 1, 0⟩ := rfl
  have lose (value : Json) := absent_members_are_missed_or_empty .v0_25 value (.inl rfl)
  refine ⟨?_, ?_, ?_, ?_⟩
  · have looked : (Answer.submitCommit.schema .v0_25).access "result" answer [.member "check_tx"]
        "log" = some ⟨.optional, .leaf .string⟩ := rfl
    obtain ⟨vacancy, listed, -, same, lost⟩ := (lose answer).1 _ _ _ _ _ _ _ read looked rfl
    exact ⟨vacancy, listed, same, lost⟩
  · have looked : (Answer.submitCommit.schema .v0_25).access "result" answer [] "hash" =
        some ⟨.required ["hash"], .leaf .hex⟩ := rfl
    obtain ⟨-, lost⟩ | ⟨group, -⟩ := (lose answer).1 _ _ _ _ _ _ _ read looked rfl
    · exact lost
    · exact absurd group (by decide)
  · have looked : (Announcement.tx.payloadSchema .v0_25).access "value" TxEvent.emptyPayload []
        "TxResult" = some ⟨.required ["TxResult"], Announcement.tx.schema .v0_25⟩ := rfl
    obtain ⟨-, -, lost⟩ | ⟨inside, -⟩ := (lose _).2 _ _ _ _ _ _ _ _ _ announced looked rfl
    · exact lost
    · exact absurd rfl inside
  · have looked : (Announcement.tx.payloadSchema .v0_25).access "value" TxEvent.emptyPayload
        [.member "TxResult"] "height" = some ⟨.required ["height"], .leaf .u64⟩ := rfl
    obtain ⟨⟨⟩, -⟩ | ⟨-, ⟨-, lost⟩ | ⟨group, -⟩⟩ :=
      (lose _).2 _ _ _ _ _ _ _ _ _ announced looked rfl
    · exact lost
    · exact absurd group (by decide)

end Sample

end Tendermint
