import Tendermint.Proofs.Answer.Layout

/-!
# Tendermint.Proofs.Answer.Extension

What a node says beyond what is asked makes no difference. Members that are not looked for, and
absent members that are spelled out as `null`, may be added to any objects of an answer or an
event, as many as there are: what is read stays the same, or fails for the same reason.

* `Json.Extended`: a value and its extensions.
* `Schema.unmoved_of_extended`: a schema reads an extension as it reads the value.
* `extensions_change_nothing`: so does every answer and every event.
-/

namespace Tendermint

open Json (Path)

/-- A value to which members were added outside some places: members that are not looked for, and
`null` under names that were absent. -/
inductive Json.Extended (kept : List (List Turn)) (looks : Path → String → Bool) (value : Json) :
    Json → Prop where
  | refl : Extended kept looks value value
  | unlooked {extended : Json} {path : Path} {key : String} (more : Json)
      (before : Extended kept looks value extended) (outside : Json.Outside kept path)
      (unlooked : looks path key = false) :
      Extended kept looks value (extended.edit path key (some more))
  | null {extended : Json} {path : Path} {key : String}
      (before : Extended kept looks value extended) (outside : Json.Outside kept path)
      (absent : ∀ o, extended.find? path = some o → o.member? key = none) :
      Extended kept looks value (extended.edit path key (some .null))

/-- Whether a schema looks for the member `key` of the object at the path. -/
def Schema.looks {α : Type} (schema : Schema α) (name : String) (value : Json) (path : Path)
    (key : String) : Bool :=
  (schema.access name value path key).isSome

def Answer.looks {α : Type} (version : Version) (answer : Answer α) : Json → Path → String → Bool :=
  (answer.schema version).looks "result"

def Announcement.looks {α : Type} (version : Version) (announcement : Announcement α) :
    Json → Path → String → Bool :=
  (announcement.payloadSchema version).looks "value"

variable {value extended : Json}

/-- An absent member that becomes `null` is found no more than before. -/
theorem Json.idle_null {path : Path} {key : String}
    (absent : ∀ o, value.find? path = some o → o.member? key = none) :
    value.Idle path key (some .null) := by
  intro o here k
  rw [get?_edit_nil_of_absent o k key (some .null) rfl]
  split
  · next same =>
    rw [← same, get?_eq, absent o here]
    rfl
  · rfl

/-- A schema reads an extension as it reads the value, and looks for the same members in it. -/
theorem Schema.unmoved_of_extended {α : Type} {schema : Schema α} {name : String}
    (h : Json.Extended schema.kept (schema.looks name value) value extended) :
    schema.Unmoved name value extended := by
  induction h with
  | refl => exact .refl ..
  | unlooked more before outside unlooked ih =>
    refine ih.trans (unmoved_edit outside fun looked => ?_)
    rw [ih.access] at looked
    exact absurd looked (Bool.eq_false_iff.1 unlooked)
  | null before outside absent ih =>
    exact ih.trans (unmoved_edit outside fun _ => Json.idle_null absent)

/-- What looks for less makes no less of an extension. -/
theorem Json.Extended.mono {kept : List (List Turn)} {looks fewer : Path → String → Bool}
    (h : Json.Extended kept looks value extended)
    (sub : ∀ path key, fewer path key = true → looks path key = true) :
    Json.Extended kept fewer value extended := by
  induction h with
  | refl => exact .refl
  | unlooked more before outside unlooked ih =>
    refine .unlooked more ih outside (Bool.eq_false_iff.2 fun looked => ?_)
    exact absurd (sub _ _ looked) (Bool.eq_false_iff.1 unlooked)
  | null before outside absent ih => exact .null ih outside absent

namespace Announcement

variable {α : Type} {version : Version} {announcement : Announcement α}

/-- An extension has the subject of the event where the payload has it. -/
theorem isSome_subject_of_extended
    (h : Json.Extended [] (announcement.looks version value) value extended) :
    (extended.get? announcement.kind.subject).isSome =
      (value.get? announcement.kind.subject).isSome := by
  have present : (Schema.present announcement.kind.subject).Unmoved "value" value extended := by
    refine Schema.unmoved_of_extended (h.mono fun path key looked => ?_)
    obtain ⟨access, looked⟩ := Option.isSome_iff_exists.1 looked
    obtain ⟨rfl, tried, -⟩ | ⟨_, _, _, _, -, -, inside, -⟩ := Schema.access_member looked
    · rw [looks, Schema.looks, payloadSchema, Schema.required, Schema.access, if_pos tried]
      rfl
    · cases inside
  have read (v : Json) : (Schema.present announcement.kind.subject).decode "value" v = .ok () ↔
      (v.get? announcement.kind.subject).isSome = true := by
    rw [Schema.decode_present]
    split <;> simp [*]
  rw [Bool.eq_iff_iff, ← read, ← read]
  exact present.outcome.eq_ok

theorem sameOutcome_of_extended (query : Option String) (kind : String)
    (h : Json.Extended [] (announcement.looks version value) value extended) :
    SameOutcome (announcement.read version ⟨query, kind, extended⟩)
      (announcement.read version ⟨query, kind, value⟩) := by
  have same := isSome_subject_of_extended h
  cases here : (value.get? announcement.kind.subject).isSome with
  | true =>
    rw [read_of_subject_isSome version announcement "value" (same.trans here),
      read_of_subject_isSome version announcement "value" here]
    refine (Schema.unmoved_of_extended ?_).outcome
    rw [kept_payloadSchema]
    exact h
  | false =>
    have absent {v : Json} (h : (v.get? announcement.kind.subject).isSome = false) :
        v.get? announcement.kind.subject = none :=
      Option.isNone_iff_eq_none.1 (Option.isSome_eq_false_iff.1 h)
    rw [read_of_subject_eq_none version announcement (absent (same.trans here)),
      read_of_subject_eq_none version announcement (absent here)]

end Announcement

/-- Members that are not looked for, and `null` under absent names, make no difference: an answer
or an event with them, in either version, is read as without them, or fails with the same error
for the same field. The other settings of a node and the application's part of the genesis document
are kept whole, so these places are left out. -/
theorem extensions_change_nothing (version : Version) (value extended : Json) :
    (∀ (α : Type) (answer : Answer α),
      Json.Extended answer.kept (answer.looks version value) value extended →
      SameOutcome (answer.read version extended) (answer.read version value)) ∧
    (∀ (α : Type) (announcement : Announcement α) (query : Option String) (kind : String),
      Json.Extended [] (announcement.looks version value) value extended →
      SameOutcome (announcement.read version ⟨query, kind, extended⟩)
        (announcement.read version ⟨query, kind, value⟩)) := by
  refine ⟨fun α answer h => ?_, fun α announcement query kind h =>
    Announcement.sameOutcome_of_extended query kind h⟩
  rw [← answer.kept_schema version] at h
  exact (Schema.unmoved_of_extended h).outcome

section Sample

/-- The answer to a transaction whose check says something more, and whose delivery spells out that
it has no log. -/
def Inclusion.extendedAnswer : Json :=
  ((answer (.object []) (.object [])).edit [.member "check_tx"] "gas_used"
    (some (.string "12"))).edit [.member "deliver_tx"] "log" (some .null)

def TxEvent.extendedPayload : Json :=
  (emptyPayload.edit [.member "TxResult", .member "result"] "tags" (some .null)).edit [] "version"
    (some (.object []))

theorem extended_transactions_read_alike :
    SameOutcome (Answer.submitCommit.read .v0_20 Inclusion.extendedAnswer)
      (Answer.submitCommit.read .v0_20 (Inclusion.answer (.object []) (.object []))) ∧
    SameOutcome (Announcement.tx.read .v0_20 ⟨none, "tendermint/event/Tx", TxEvent.extendedPayload⟩)
      (Announcement.tx.read .v0_20 ⟨none, "tendermint/event/Tx", TxEvent.emptyPayload⟩) := by
  have outside (path : Path) : Json.Outside [] path := by rintro _ ⟨⟩
  refine ⟨(extensions_change_nothing .v0_20 _ _).1 _ .submitCommit (.null
      (.unlooked _ .refl (outside _) rfl) (outside _) ?_),
    (extensions_change_nothing .v0_20 _ _).2 _ .tx _ _ (.unlooked _
      (.null .refl (outside _) ?_) (outside _) rfl)⟩
  · rintro _ ⟨⟩
    rfl
  · rintro _ ⟨⟩
    rfl

end Sample

end Tendermint
