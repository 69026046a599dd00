import Tendermint.Proofs.Json.Edit

/-!
# Tendermint.Proofs.Json.Replace

Values that differ in the value at one path, and objects of which one member stands at another
place.

* `Json.replace`: the value with another one at a path.
* `Json.get?_replace_member`, `Json.replace_ne_null`: what is found in it.
* `Json.Moved`: a member is taken from one object and put into another, maybe under another name.
-/

namespace Tendermint

namespace Json

/-- Puts `new` in the place of the value at the path. Where the path leads nowhere nothing
changes. -/
def replace : Json → Path → Json → Json
  | _, [], new => new
  | .object members, .member key :: rest, new =>
    .object (members.map fun m => if m.1 = key then (m.1, replace m.2 rest new) else m)
  | .array items, .item i :: rest, new => .array (items.modify i fun v => replace v rest new)
  | value, _, _ => value

variable {value old new found : Json} {path : Path} {key k : String}

theorem OneKind.ne_null (h : OneKind old new) (solid : old ≠ .null) : new ≠ .null := by
  cases h with
  | same => exact solid
  | objects | arrays => rintro ⟨⟩

theorem object_of_get? (here : value.get? key = some found) :
    ∃ members, value = .object members := by
  cases value with
  | object members => exact ⟨members, rfl⟩
  | _ => cases here

theorem ne_null_of_get? (here : value.get? key = some found) : found ≠ .null := by
  rintro rfl
  rw [get?_eq] at here
  obtain ⟨v, -, shown⟩ := Option.bind_eq_some_iff.1 here
  cases eq_of_unlessNull shown
  cases shown

theorem object_of_find?_member {rest : Path} (here : value.find? (.member key :: rest) = some old) :
    ∃ members, value = .object members := by
  obtain ⟨v, present, -⟩ := Option.bind_eq_some_iff.1 here
  exact object_of_get? present

theorem array_of_find?_item {i : Nat} {rest : Path}
    (here : value.find? (.item i :: rest) = some old) :
    ∃ items v, value = .array items ∧ items[i]? = some v ∧ v.find? rest = some old := by
  cases value with
  | array items =>
    obtain ⟨v, present, below⟩ := Option.bind_eq_some_iff.1 here
    exact ⟨items, v, rfl, present, below⟩
  | _ => cases here

theorem ne_null_of_find? (here : value.find? path = some old) (solid : old ≠ .null) :
    value ≠ .null := by
  rintro rfl
  obtain _ | ⟨_ | _, rest⟩ := path
  · exact solid (Option.some.inj here).symm
  · cases here
  · cases here

/-- What holds something at a path keeps its kind if that is replaced. -/
theorem oneKind_replace {step : Step} (new : Json) (here : value.find? (step :: path) = some old) :
    OneKind value (value.replace (step :: path) new) := by
  cases step with
  | member key =>
    obtain ⟨members, rfl⟩ := object_of_find?_member here
    exact .objects ..
  | item i =>
    obtain ⟨items, v, rfl, -, -⟩ := array_of_find?_item here
    exact .arrays ..

theorem replace_ne_null (here : value.find? path = some old) (some : new ≠ .null) :
    value.replace path new ≠ .null := by
  cases path with
  | nil => rwa [replace]
  | cons step path =>
    cases step with
    | member key =>
      obtain ⟨members, rfl⟩ := object_of_find?_member here
      rintro ⟨⟩
    | item i =>
      obtain ⟨items, v, rfl, -, -⟩ := array_of_find?_item here
      rintro ⟨⟩

/-- Below a member only this member is found with another value. -/
theorem get?_replace_member (here : value.get? key = some found)
    (some : found.replace path new ≠ .null) :
    (value.replace (.member key :: path) new).get? k =
      if key = k then .some (found.replace path new) else value.get? k := by
  obtain ⟨members, rfl⟩ := object_of_get? here
  rw [get?_eq] at here
  obtain ⟨v, stored, shown⟩ := Option.bind_eq_some_iff.1 here
  obtain rfl := eq_of_unlessNull shown
  rw [get?_eq, get?_eq, replace]
  simp only [member?, Json.members, Members.lookup_map fun v => v.replace path new]
  split
  · next same =>
    subst same
    change Members.lookup key members = _ at stored
    rw [stored]
    exact unlessNull_of_ne some
  · rfl

theorem find?_member : value.find? [.member key] = value.get? key := by
  rw [find?]
  cases value.get? key <;> rfl

section Moved

/-- The member `key` of the object at `source` is taken from there and put under `name` into the
object at `target`, where it was absent. -/
inductive Moved (source : Path) (key : String) (target : Path) (name : String) (value : Json) :
    Json → Prop where
  | intro {content : Json} {members : Members} (here : value.find? (source ++ [.member key]) = some content)
    (room : value.find? target = some (.object members))
    (absent : (object members).get? name = none) :
    Moved source key target name value ((value.edit source key none).edit target name (some content))

theorem Moved.ne_null {source target : Path} {name : String}
    (h : Moved source key target name value new) : value ≠ .null ∧ new ≠ .null := by
  obtain @⟨content, members, here, room, absent⟩ := h
  have solid : value ≠ .null := by
    refine ne_null_of_find? room ?_
    rintro ⟨⟩
  exact ⟨solid, (oneKind_edit ..).ne_null ((oneKind_edit ..).ne_null solid)⟩

/-- What is found in an object of which a member got another name. -/
theorem Moved.get?_rename {one other : String} (h : Moved [] one [] other value new) :
    ∃ content, value.get? one = some content ∧ value.get? other = none ∧
      ∀ k, new.get? k = if other = k then some content else if one = k then none else value.get? k := by
  obtain @⟨content, members, here, room, absent⟩ := h
  obtain rfl : value = .object members := Option.some.inj room
  rw [List.nil_append, find?_member] at here
  refine ⟨content, here, absent, fun k => ?_⟩
  rw [edit, get?_edit_nil, ← edit, get?_edit_nil, Option.bind_some,
    unlessNull_of_ne (ne_null_of_get? here)]
  rfl

/-- Whichever of two names a member has, it is found under one of them. -/
theorem Moved.or_rename {one other : String} (h : Moved [] one [] other value new) :
    (new.get? one).or (new.get? other) = (value.get? one).or (value.get? other) ∧
      (new.get? other).or (new.get? one) = (value.get? other).or (value.get? one) := by
  obtain ⟨content, here, absent, found⟩ := h.get?_rename
  have apart : other ≠ one := by
    rintro rfl
    rw [here] at absent
    cases absent
  rw [found one, found other, here, absent, if_pos rfl, if_pos rfl, if_neg apart]
  exact ⟨rfl, rfl⟩

theorem Moved.get?_rename_of_ne {one other : String} (h : Moved [] one [] other value new)
    (notOne : one ≠ k) (notOther : other ≠ k) : new.get? k = value.get? k := by
  obtain ⟨content, -, -, found⟩ := h.get?_rename
  rw [found, if_neg notOther, if_neg notOne]

/-- A member `inner` of the part `key`, or else a member `outer` beside the part, is found as
before, and so is all else. -/
structure Relocated (key inner outer : String) (value new part newPart : Json) : Prop where
  before : value.get? key = some part
  after : new.get? key = some newPart
  inside : ∀ k, inner ≠ k → newPart.get? k = part.get? k
  beside : ∀ k, outer ≠ k → key ≠ k → new.get? k = value.get? k
  counted : (newPart.get? inner).or (new.get? outer) = (part.get? inner).or (value.get? outer)

variable {inner outer : String}

/-- A member is taken out of a part of an object and put beside the part. -/
theorem Moved.relocated_out (h : Moved [.member key] inner [] outer value new) (apart : outer ≠ key) :
    ∃ part newPart, Relocated key inner outer value new part newPart := by
  obtain @⟨content, members, here, room, absent⟩ := h
  obtain rfl : value = .object members := Option.some.inj room
  rw [find?_append, find?_member] at here
  obtain ⟨part, present, here⟩ := Option.bind_eq_some_iff.1 here
  rw [find?_member] at here
  obtain ⟨partMembers, rfl⟩ := object_of_get? here
  have found (k : String) : ((object members).edit [.member key] inner none |>.edit [] outer
      (some content)).get? k = if outer = k then some content else if key = k then
        some ((object partMembers).edit [] inner none) else (object members).get? k := by
    obtain ⟨rest, changed⟩ : ∃ rest, (object members).edit [.member key] inner none = object rest :=
      ⟨_, rfl⟩
    rw [changed, get?_edit_nil, ← changed, get?_edit_member, Option.bind_some,
      unlessNull_of_ne (ne_null_of_get? here)]
    split
    · rfl
    · split
      · next same =>
        subst same
        rw [present]
        rfl
      · rfl
  refine ⟨_, _, present, (found key).trans ((if_neg apart).trans (if_pos rfl)), fun k other => ?_,
    fun k notOuter notKey => ?_, ?_⟩
  · rw [get?_edit_nil, if_neg other]
  · rw [found, if_neg notOuter, if_neg notKey]
  · rw [found, get?_edit_nil, if_pos rfl, if_pos rfl, here]
    rfl

/-- A member is taken from an object and put into one of its parts. -/
theorem Moved.relocated_in (h : Moved [] outer [.member key] inner value new) (apart : outer ≠ key) :
    ∃ part newPart, Relocated key inner outer value new part newPart := by
  obtain @⟨content, partMembers, here, room, absent⟩ := h
  rw [List.nil_append, find?_member] at here
  rw [find?_member] at room
  obtain ⟨members, rfl⟩ := object_of_get? here
  have found (k : String) : ((object members).edit [] outer none |>.edit [.member key] inner
      (some content)).get? k = if key = k then
        some ((object partMembers).edit [] inner (some content)) else if outer = k then none
        else (object members).get? k := by
    rw [get?_edit_member, get?_edit_nil]
    split
    · next same =>
      subst same
      rw [if_neg apart, room]
      rfl
    · rfl
  refine ⟨_, _, room, (found key).trans (if_pos rfl), fun k other => ?_,
    fun k notOuter notKey => ?_, ?_⟩
  · rw [get?_edit_nil, if_neg other]
  · rw [found, if_neg notKey, if_neg notOuter]
  · rw [found, get?_edit_nil, if_pos rfl, if_neg apart.symm, if_pos rfl, here, absent, Option.bind_some,
      unlessNull_of_ne (ne_null_of_get? here)]
    rfl

end Moved

end Json

end Tendermint
