import Tendermint.Proofs.Json.Fields

/-!
# Tendermint.Proofs.Json.Edit

Values that differ in one member of one object. A path leads from a value to the object, through
members and items of lists; the member gets new content there, or is removed.

* `Json.edit`: the changed value.
* `Json.get?_edit_nil`, `Json.get?_edit_member`: what is found in it.
* `Json.find?`, `Json.find?_edit_self`: the value at a path, before and after.
-/

namespace Tendermint

namespace Json

/-- A step from a value to a part of it. -/
inductive Step where
  | member (name : String)
  | item (index : Nat)
  deriving DecidableEq, Repr

abbrev Path := List Step

/-- Gives a member new content; without any it is removed. -/
def Members.put (name : String) : Option Json → Members → Members
  | none, members => members.filter (·.1 ≠ name)
  | some value, members => Members.insert name value members

/-- Gives the member `name` of the object at the path new content. Where there is no object
nothing changes. -/
def edit : Json → Path → String → Option Json → Json
  | .object members, [], name, content => .object (Members.put name content members)
  | .object members, .member key :: rest, name, content =>
    .object (members.map fun m => if m.1 = key then (m.1, edit m.2 rest name content) else m)
  | .array items, .item i :: rest, name, content =>
    .array (items.modify i fun v => edit v rest name content)
  | value, _, _, _ => value

/-- The value at a path. -/
def find? : Json → Path → Option Json
  | value, [] => some value
  | value, .member name :: rest => (value.get? name).bind fun v => find? v rest
  | .array items, .item i :: rest => (items[i]?).bind fun v => find? v rest
  | _, .item _ :: _ => none

theorem Members.lookup_put (name key : String) (content : Option Json) (members : Members) :
    (Members.put name content members).lookup key =
      if name = key then content else members.lookup key := by
  cases content with
  | some value => exact lookup_insert key name value members
  | none =>
    rw [put]
    induction members with
    | nil => simp [lookup]
    | cons m rest ih =>
      obtain ⟨k, v⟩ := m
      by_cases dropped : k = name
      · subst dropped
        simp only [List.filter_cons, ne_eq, not_true, decide_false, Bool.false_eq_true, if_false, ih,
          lookup]
        split <;> rfl
      · simp only [List.filter_cons, ne_eq, dropped, not_false_iff, decide_true, if_true, lookup, ih]
        grind

theorem Members.lookup_map (change : Json → Json) (key k : String) (members : Members) :
    lookup k (members.map fun m => if m.1 = key then (m.1, change m.2) else m) =
      if key = k then (members.lookup k).map change else members.lookup k := by
  induction members with
  | nil => simp [lookup]
  | cons m rest ih =>
    obtain ⟨l, v⟩ := m
    simp only [List.map_cons, lookup]
    grind [lookup]

/-- Values of one kind; those that are neither objects nor lists are the same. -/
inductive OneKind : Json → Json → Prop where
  | same (value : Json) : OneKind value value
  | objects (old new : Members) : OneKind (.object old) (.object new)
  | arrays (old new : List Json) : OneKind (.array old) (.array new)

section Edit

variable (value : Json) (path : Path) (key k name : String) (content : Option Json)

theorem oneKind_edit : OneKind value (value.edit path name content) := by
  cases value with
  | object members =>
    obtain _ | ⟨_ | _, rest⟩ := path
    · exact .objects ..
    · exact .objects ..
    · exact .same _
  | array items =>
    obtain _ | ⟨_ | _, rest⟩ := path
    · exact .same _
    · exact .same _
    · exact .arrays ..
  | _ => cases path <;> exact .same _

/-- Seen as a list: an item is edited, or there is no list before and after, or nothing changes. -/
theorem edit_cases :
    (∃ items i rest, value = .array items ∧ path = .item i :: rest) ∨
      (∃ old new, value = .object old ∧ value.edit path name content = .object new) ∨
      value.edit path name content = value := by
  have kind := oneKind_edit value path name content
  generalize changed : value.edit path name content = w at kind
  cases kind with
  | same => exact .inr (.inr rfl)
  | objects old new => exact .inr (.inl ⟨old, new, rfl, rfl⟩)
  | arrays items _ =>
    obtain _ | ⟨_ | i, rest⟩ := path
    · exact .inr (.inr changed.symm)
    · exact .inr (.inr changed.symm)
    · exact .inl ⟨items, i, rest, rfl, rfl⟩

theorem unlessNull_edit :
    unlessNull (value.edit path name content) =
      (unlessNull value).map fun v => v.edit path name content := by
  have kind := oneKind_edit value path name content
  generalize h : value.edit path name content = changed at kind
  cases kind with
  | same => cases value <;> simp [unlessNull, h]
  | objects => exact (congrArg some h).symm
  | arrays => exact (congrArg some h).symm

theorem get?_edit_nil (members : Members) :
    ((object members).edit [] name content).get? k =
      if name = k then content.bind unlessNull else (object members).get? k := by
  rw [get?_eq, get?_eq, edit]
  simp only [member?, Json.members, Members.lookup_put]
  split <;> rfl

theorem get?_edit_member :
    (value.edit (.member key :: path) name content).get? k =
      if key = k then (value.get? k).map fun v => v.edit path name content
      else value.get? k := by
  cases value with
  | object members =>
    rw [get?_eq, get?_eq, edit]
    simp only [member?, Json.members, Members.lookup_map fun v => v.edit path name content]
    split
    · cases Members.lookup k members with
      | none => rfl
      | some v => exact unlessNull_edit ..
    · rfl
  | _ => exact (ite_self _).symm

@[simp] theorem get?_edit_item (i : Nat) :
    (value.edit (.item i :: path) name content).get? k = value.get? k := by
  cases value <;> rfl

/-- A member that is removed or made `null` is not found any more. -/
theorem get?_edit_nil_of_absent (absent : content.bind unlessNull = none) :
    (value.edit [] name content).get? k = if name = k then none else value.get? k := by
  cases value with
  | object members => rw [get?_edit_nil, absent]
  | _ => exact (ite_self _).symm

/-- A member stays unless it is the one that is lost. -/
theorem isSome_get?_edit (here : (value.get? k).isSome)
    (stays : path = [] → name = k → (content.bind unlessNull).isSome) :
    ((value.edit path name content).get? k).isSome := by
  cases value with
  | object members =>
    obtain _ | ⟨n | i, path⟩ := path
    · rw [get?_edit_nil]
      split
      · next same => exact stays rfl same
      · exact here
    · rw [get?_edit_member]
      split
      · rwa [Option.isSome_map]
      · exact here
    · exact here
  | _ => cases here

theorem find?_append (q : Path) :
    value.find? (path ++ q) = (value.find? path).bind fun v => v.find? q := by
  induction path generalizing value with
  | nil => rfl
  | cons step path ih =>
    cases step with
    | member k =>
      rw [List.cons_append, find?, find?, Option.bind_assoc]
      simp only [ih]
    | item i =>
      cases value with
      | array items =>
        rw [List.cons_append, find?, find?, Option.bind_assoc]
        simp only [ih]
      | _ => rfl

theorem object_of_find? {value old : Json} {path : Path} {name : String}
    (found : value.find? (path ++ [.member name]) = some old) :
    ∃ members, value.find? path = some (.object members) := by
  rw [find?_append] at found
  obtain ⟨o, here, found⟩ := Option.bind_eq_some_iff.1 found
  cases o with
  | object members => exact ⟨members, here⟩
  | _ => cases found

theorem find?_edit_member {found : Json} (here : value.get? key = some found) (q : Path) :
    (value.edit (.member key :: path) name content).find? (.member key :: q) =
      (found.edit path name content).find? q := by
  rw [find?, get?_edit_member, if_pos rfl, here]
  rfl

theorem find?_edit_item {items : List Json} {i : Nat} {found : Json} (here : items[i]? = some found)
    (q : Path) :
    ((array items).edit (.item i :: path) name content).find? (.item i :: q) =
      (found.edit path name content).find? q := by
  rw [edit, find?, List.getElem?_modify, here]
  simp

/-- The object at the path of an edit. -/
theorem find?_edit_self {o : Json} (here : value.find? path = some o) :
    (value.edit path name content).find? path = some (o.edit [] name content) := by
  induction path generalizing value with
  | nil =>
    cases here
    rfl
  | cons step path ih =>
    cases step with
    | member k =>
      obtain ⟨v, present, below⟩ := Option.bind_eq_some_iff.1 here
      rw [find?_edit_member value path k name content present]
      exact ih v below
    | item i =>
      cases value with
      | array items =>
        obtain ⟨v, present, below⟩ := Option.bind_eq_some_iff.1 here
        rw [find?_edit_item path name content present]
        exact ih v below
      | _ => cases here

/-- Nothing new is found when a member is lost. -/
theorem find?_edit_eq_none {q : Path} (gone : content.bind unlessNull = none)
    (absent : value.find? q = none) : (value.edit path name content).find? q = none := by
  induction q generalizing value path with
  | nil => cases absent
  | cons step q ih =>
    cases step with
    | member k =>
      rw [find?, Option.bind_eq_none_iff] at absent ⊢
      intro v found
      obtain _ | ⟨n | i, path⟩ := path
      · rw [get?_edit_nil_of_absent value k name content gone] at found
        split at found
        · cases found
        · exact absent v found
      · rw [get?_edit_member] at found
        split at found
        · obtain ⟨w, present, rfl⟩ := Option.map_eq_some_iff.1 found
          exact ih w path (absent w present)
        · exact absent v found
      · rw [get?_edit_item] at found
        exact absent v found
    | item j =>
      obtain ⟨items, i, rest, rfl, rfl⟩ | ⟨old, new, rfl, changed⟩ | same :=
        value.edit_cases path name content
      · rw [find?, Option.bind_eq_none_iff] at absent
        rw [edit, find?, Option.bind_eq_none_iff]
        intro v found
        rw [List.getElem?_modify] at found
        obtain ⟨w, present, rfl⟩ := Option.map_eq_some_iff.1 found
        split
        · exact ih w rest (absent w present)
        · exact absent w present
      · rw [changed]
        rfl
      · rw [same]
        exact absent

end Edit

end Json

end Tendermint
