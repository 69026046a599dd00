import Tendermint.Proofs.Schema.Demand

/-!
# Tendermint.Proofs.Schema.Loss

What becomes of an accepted value when a member that is looked for is lost or refused. Everything
that is read before it is read as before, so the first reading of the member decides.

* `Access.Fails`: the error that the first reading comes to.
* `Schema.Decisive`, `Schema.decisive_of_decode`: it is the error of the whole.
-/

namespace Tendermint

open Json (Path Step unlessNull)

/-- What the first reading of the member `key` of the object at the path comes to where its new
content is refused, or where it is lost and the members that have to be there then are not in the
changed value either. -/
inductive Access.Fails (access : Access) (path : Path) (key : String) (content : Option Json)
    (changed : Json) : DecodeError → Prop where
  | refused {value : Json} {e : DecodeError} (new : content = some value)
      (shown : unlessNull value = some value) (error : access.reader.decode key value = .error e) :
      Fails access path key content changed e
  | lost {names : List String} (gone : content.bind unlessNull = none)
      (need : access.need = .required names)
      (absent : ∀ n ∈ names, changed.find? (path ++ [.member n]) = none) :
      Fails access path key content changed (.missingField (String.intercalate " | " names))
  | lostInstead {place : Path} {names : List String} (gone : content.bind unlessNull = none)
      (need : access.need = .instead place names)
      (absent : ∀ n ∈ names, changed.find? (place ++ [.member n]) = none) :
      Fails access path key content changed (.missingField (String.intercalate " | " names))

namespace Schema

/-- What is read where the one member that may be absent is absent. -/
def blank {α : Type} : Schema α → Option α
  | .optional _ (.leaf _) => some none
  | .member _ inner => blank inner
  | _ => none

/-- What is tried first comes to nothing only for want of one optional leaf, and what is tried then
is a member that has to be there. -/
def Settled {α : Type} : Schema α → Prop
  | .const _ | .leaf _ => True
  | .ap f x => Settled f ∧ Settled x
  | .items item | .gaps item => Settled item
  | .member _ inner | .optional _ inner => Settled inner
  | .orElse first second =>
    Settled first ∧ Settled second ∧ first.blank = some none ∧
      ∃ (names : List String) (inner : Schema α), second = .member names inner
  | .textOrObject text object => Settled text ∧ Settled object

/-- A schema in which the first reading of a member decides. -/
structure Regular {α : Type} (schema : Schema α) : Prop where
  settled : schema.Settled
  apart : schema.Apart

variable {α : Type} {schema : Schema α} {name key k : String} {v w : Json} {path : Path}
  {content : Option Json} {e : DecodeError} {access : Access}

/-! ## What is found after a change -/

theorem firstPresent_edit_member {names : List String} {found : Json}
    (first : firstPresent v names = some (k, found)) :
    firstPresent (v.edit (.member k :: path) key content) names =
      some (k, found.edit path key content) := by
  induction names with
  | nil => cases first
  | cons n rest ih =>
    rw [firstPresent] at first ⊢
    rw [Json.get?_edit_member]
    cases here : v.get? n with
    | none =>
      rw [here] at first
      rw [Option.map_none, ite_self]
      exact ih first
    | some other =>
      rw [here] at first
      cases first
      rw [if_pos rfl, Option.map_some]

theorem firstPresent_of_new {names : List String} {value : Json} (looked : key ∈ tried v names)
    (new : w.get? key = some value) (others : ∀ n, n ≠ key → w.get? n = v.get? n) :
    firstPresent w names = some (key, value) := by
  induction names with
  | nil => cases looked
  | cons n rest ih =>
    rw [firstPresent]
    by_cases here : n = key
    · rw [here, new]
    · rw [tried] at looked
      obtain rfl | looked := List.mem_cons.1 looked
      · exact absurd rfl here
      · rw [others n here]
        cases found : v.get? n with
        | none =>
          rw [found] at looked
          exact ih looked
        | some other =>
          rw [found] at looked
          cases looked

theorem firstPresent_eq_none {names : List String} (h : ∀ n ∈ names, v.get? n = none) :
    firstPresent v names = none := by
  induction names with
  | nil => rfl
  | cons n rest ih =>
    rw [List.forall_mem_cons] at h
    rw [firstPresent, h.1]
    exact ih h.2

theorem eachItem_modify_error {read : Json → Except DecodeError α} {change : Json → Json}
    {vs : List Json} {l : List α} {i : Nat} {found : Json} (h : eachItem read vs = .ok l)
    (here : vs[i]? = some found) (error : read (change found) = .error e) :
    eachItem read (vs.modify i change) = .error e := by
  induction vs generalizing i l with
  | nil => cases here
  | cons v rest ih =>
    rw [eachItem] at h
    cases first : read v with
    | error _ =>
      rw [first] at h
      cases h
    | ok a =>
      rw [first] at h
      cases others : eachItem read rest with
      | error _ =>
        rw [others] at h
        cases h
      | ok more =>
        cases i with
        | zero =>
          cases here
          rw [List.modify_zero_cons, eachItem, error]
        | succ i =>
          rw [List.modify_succ_cons, eachItem, first, ih others here]

/-! ## The first reading decides -/

/-- The error is that of the part under the step. -/
theorem fails_of_under {step : Step} (below : ∀ rest, v.find? (step :: rest) = w.find? rest)
    (h : (access.under step).Fails (step :: path) key content v e) :
    access.Fails path key content w e := by
  obtain ⟨_ | names | ⟨place, names⟩, reader⟩ := access
  · cases h with
    | refused new shown error => exact .refused new shown error
    | lost gone need => cases need
    | lostInstead gone need => cases need
  · cases h with
    | refused new shown error => exact .refused new shown error
    | lost gone need absent =>
      exact .lost gone need fun n hn => (below _).symm.trans (absent n hn)
    | lostInstead gone need => cases need
  · cases h with
    | refused new shown error => exact .refused new shown error
    | lost gone need => cases need
    | lostInstead gone need absent =>
      cases need
      exact .lostInstead gone rfl fun n hn => (below _).symm.trans (absent n hn)

/-- Where one leaf may be absent and is, nothing else changes. -/
theorem decode_edit_of_blank {β : Type} {schema : Schema β} {a b : β}
    (blank : schema.blank = some b) (read : schema.decode name v = .ok a)
    (looked : schema.access name v path key = some access) (optional : access.need = .optional)
    (gone : content.bind unlessNull = none) :
    schema.decode name (v.edit path key content) = .ok b := by
  induction schema generalizing name v path access with
  | optional n inner _ =>
    cases inner <;> cases blank
    obtain ⟨rfl, rfl, rfl⟩ | ⟨_, _, _, _, _, inside, -⟩ := access_optional looked
    · rw [decode, Json.get?_edit_nil_of_absent _ _ _ _ gone, if_pos rfl]
    · cases inside
  | member names inner ih =>
    obtain ⟨-, -, rfl⟩ | ⟨k, rest, found, below, rfl, first, inside, rfl⟩ := access_member looked
    · cases optional
    · rw [decode, first] at read
      rw [decode, firstPresent_edit_member first]
      refine ih blank read inside ?_
      obtain ⟨_ | _ | _, reader⟩ := below
      · rfl
      · cases optional
      · cases optional
  | _ => cases blank

/-- A member of an object in the value that is looked for and fails makes the whole fail, with the
error of the member. -/
def Decisive (schema : Schema α) (name : String) (v : Json) : Prop :=
  ∀ ⦃path key content access members e⦄, Json.Outside schema.kept path →
    schema.access name v path key = some access → v.find? path = some (.object members) →
    access.Fails path key content (v.edit path key content) e →
    schema.decode name (v.edit path key content) = .error e

namespace Decisive

theorem ap {β : Type} {f : Schema (α → β)} {x : Schema α} {g : α → β}
    (hf : f.Decisive name v) (read : f.decode name v = .ok g) (hx : x.Decisive name v) :
    (Schema.ap f x).Decisive name v := by
  intro path key content access members e outside looked here fails
  obtain ⟨outsidef, outsidex⟩ := outside_append.1 outside
  rw [decode]
  obtain looked | ⟨unlooked, looked⟩ := access_ap looked
  · rw [hf outsidef looked here fails]
  · -- The function does not look for the member, so it is read as before.
    have before : f.decode name (v.edit path key content) = .ok g :=
      (unmoved_edit outsidef (by rw [unlooked]; rintro ⟨⟩)).outcome.eq_ok.2 read
    rw [before, hx outsidex looked here fails]

theorem items {item : Schema α} {vs : List Json} {l : List α}
    (read : eachItem (item.decode name) vs = .ok l) (each : ∀ v ∈ vs, item.Decisive name v) :
    (Schema.items item).Decisive name (.array vs) := by
  intro path key content access members e outside looked here fails
  obtain ⟨_, i, path, found, below, ⟨⟩, rfl, at_i, inside, rfl⟩ := access_items looked
  rw [Json.find?, at_i] at here
  have failed : item.decode name (found.edit path key content) = .error e :=
    each found (List.mem_of_getElem? at_i) (outside_map outside rfl) inside here
      (fails_of_under (Json.find?_edit_item path key content at_i) fails)
  exact eachItem_modify_error read at_i failed

theorem gaps {item : Schema α} {vs : List Json} {l : List (Option α)}
    (read : eachItem (gapOr (item.decode name)) vs = .ok l)
    (each : ∀ v ∈ vs, unlessNull v = some v → item.Decisive name v) :
    (Schema.gaps item).Decisive name (.array vs) := by
  intro path key content access members e outside looked here fails
  obtain ⟨_, i, path, found, below, ⟨⟩, rfl, at_i, shown, inside, rfl⟩ := access_gaps looked
  rw [Json.find?, at_i] at here
  have failed : item.decode name (found.edit path key content) = .error e :=
    each found (List.mem_of_getElem? at_i) shown (outside_map outside rfl) inside here
      (fails_of_under (Json.find?_edit_item path key content at_i) fails)
  refine eachItem_modify_error read at_i ?_
  rw [gapOr_of_unlessNull (by rw [Json.unlessNull_edit, shown]; rfl), failed]
  rfl

theorem member {names : List String} {inner : Schema α}
    (below : ∀ k found, firstPresent v names = some (k, found) → inner.Decisive k found) :
    (Schema.member names inner).Decisive name v := by
  intro path key content access members e outside looked here fails
  rw [decode]
  obtain ⟨rfl, tried, rfl⟩ | ⟨k, path, found, _, rfl, first, inside, rfl⟩ := access_member looked
  · cases here
    cases fails with
    | refused new shown error =>
      subst new
      rw [firstPresent_of_new tried (by rw [Json.get?_edit_nil, if_pos rfl]; exact shown)
        fun n other => by rw [Json.get?_edit_nil, if_neg (Ne.symm other)]]
      exact error
    | lost gone need absent =>
      cases need
      rw [firstPresent_eq_none fun n hn => by simpa [Json.find?] using absent n hn]
    | lostInstead gone need => cases need
  · rw [firstPresent_edit_member first]
    obtain ⟨named, present⟩ := mem_of_firstPresent first
    rw [Json.find?, present] at here
    exact below k found first (outside_flatMap named outside) inside here
      (fails_of_under (Json.find?_edit_member v path k key content present) fails)

theorem optional {n : String} {inner : Schema α}
    (below : ∀ found, v.get? n = some found → inner.Decisive n found) :
    (Schema.optional n inner).Decisive name v := by
  intro path key content access members e outside looked here fails
  rw [decode_optional]
  obtain ⟨rfl, rfl, rfl⟩ | ⟨path, found, _, rfl, present, inside, rfl⟩ := access_optional looked
  · cases here
    cases fails with
    | refused new shown error =>
      subst new
      have refused : inner.decode key _ = .error e := error
      rw [Json.get?_edit_nil, if_pos rfl, Option.bind_some, shown, optionally, refused]
      rfl
    | lost gone need => cases need
    | lostInstead gone need => cases need
  · rw [Json.find?, present] at here
    have failed : inner.decode n (found.edit path key content) = .error e :=
      below found present (outside_map outside rfl) inside here
        (fails_of_under (Json.find?_edit_member v path n key content present) fails)
    rw [Json.get?_edit_member, if_pos rfl, present, Option.map_some, optionally, failed]
    rfl

theorem orElse {first : Schema (Option α)} {names : List String} {inner : Schema α} {b : Option α}
    (hf : first.Decisive name v) (read : first.decode name v = .ok b)
    (blank : first.blank = some none) (hs : b = none → (Schema.member names inner).Decisive name v) :
    (Schema.orElse first (.member names inner)).Decisive name v := by
  intro path key content access members e outside looked here fails
  obtain ⟨outsidef, outsides⟩ := outside_append.1 outside
  rw [decode]
  obtain ⟨before, inFirst, rfl⟩ | ⟨unlooked, nothing, inSecond⟩ := access_orElse looked
  · cases fails with
    | refused new shown error => rw [hf outsidef inFirst here (.refused new shown error)]
    | lost gone need absent =>
      obtain ⟨_ | needed | _, reader⟩ := before
      · cases need
      · rw [hf outsidef inFirst here (.lost gone need absent)]
      · cases need
    | lostInstead gone need absent =>
      obtain ⟨_ | _ | _, reader⟩ := before
      · -- Without the optional leaf it is what is tried then that fails.
        cases need
        rw [decode_edit_of_blank blank read inFirst rfl gone, decode]
        rw [firstPresent_eq_none fun n hn => by simpa [Json.find?] using absent n hn]
        rfl
      · cases need
      · rw [hf outsidef inFirst here (.lostInstead gone need absent)]
  · have before : first.decode name (v.edit path key content) = .ok none :=
      (unmoved_edit outsidef (by rw [unlooked]; rintro ⟨⟩)).outcome.eq_ok.2 nothing
    rw [nothing] at read
    cases read
    rw [before]
    exact hs rfl outsides inSecond here fails

theorem textOrObject {text object : Schema α} {old : Json.Members}
    (h : object.Decisive name (.object old)) :
    (Schema.textOrObject text object).Decisive name (.object old) := by
  intro path key content access members e outside looked here fails
  have failed := h (outside_append.1 outside).2 looked here fails
  have kind := Json.oneKind_edit (.object old) path key content
  generalize (Json.object old).edit path key content = w at kind failed
  cases kind with
  | same => exact failed
  | objects => exact failed

/-- There is no object in a text. -/
theorem of_string {schema : Schema α} (text : String) : schema.Decisive name (.string text) := by
  intro path key content access members e _ _ here
  obtain _ | ⟨_ | _, path⟩ := path
  · cases here
  · cases here
  · cases here

end Decisive

/-- Of whatever is accepted, the first reading of a member decides. -/
theorem decisive_of_decode {a : α} (settled : schema.Settled) (read : schema.decode name v = .ok a) :
    schema.Decisive name v := by
  induction schema generalizing name v with
  | const a => rintro _ _ _ _ _ _ _ ⟨⟩
  | ap f x ihf ihx =>
    obtain ⟨g, readf, b, readx, rfl⟩ := (decode_seq_eq_ok (f := f) (x := x)).1 read
    exact .ap (ihf settled.1 readf) readf (ihx settled.2 readx)
  | leaf kind => rintro _ _ _ _ _ _ _ ⟨⟩
  | items item ih =>
    cases v with
    | array vs =>
      refine .items read fun v here => ?_
      obtain ⟨b, readItem⟩ := ok_of_eachItem read here
      exact ih settled readItem
    | _ => cases read
  | gaps item ih =>
    cases v with
    | array vs =>
      refine .gaps read fun v here shown => ?_
      obtain ⟨b, readGap⟩ := ok_of_eachItem read here
      rw [gapOr_of_unlessNull shown] at readGap
      obtain ⟨b, readItem, -⟩ := map_eq_ok.1 readGap
      exact ih settled readItem
    | _ => cases read
  | member names inner ih =>
    refine .member fun k found first => ?_
    rw [decode, first] at read
    exact ih settled read
  | optional n inner ih =>
    refine .optional fun found present => ?_
    rw [decode_optional, present] at read
    obtain ⟨b, readInner, -⟩ := map_eq_ok.1 read
    exact ih settled readInner
  | orElse first second ihf ihs =>
    obtain ⟨settledf, settleds, blank, names, inner, rfl⟩ := settled
    rw [decode] at read
    cases readf : first.decode name v with
    | error _ =>
      rw [readf] at read
      cases read
    | ok b =>
      refine .orElse (ihf settledf readf) readf blank fun nothing => ?_
      rw [readf, nothing] at read
      exact ihs settleds read
  | textOrObject text object iht iho =>
    cases v with
    | object members => exact .textOrObject (iho settled.2 read)
    | string text => exact .of_string text
    | _ => cases read

end Schema

end Tendermint
