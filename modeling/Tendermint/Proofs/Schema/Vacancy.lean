import Tendermint.Proofs.Schema.Demand

/-!
# Tendermint.Proofs.Schema.Vacancy

What becomes of an accepted value when a member that may be absent is lost. The reading finds the
same as before everywhere else, so one part of the result is empty and the rest stays.

* `Schema.Found`, `Schema.build`: what a schema finds in a value, and what it makes of it.
* `Schema.finds_of_decode`: without the member the reading makes of it what is left.
* `Vacancy`: a part of the result that may be empty, with its member and the empty part.
-/

namespace Tendermint

open Json (Path Step unlessNull)

namespace Schema

/-- What a schema finds in a value: the parts of the result that can be empty on their own, and
the rest as it was read. -/
def Found : {α : Type} → Schema α → Type
  | _, .const _ => Unit
  | _, .ap f x => Found f × Found x
  | α, .leaf _ => α
  | _, .items item => List (Found item)
  | _, .gaps item => List (Option (Found item))
  | _, .member _ inner => Found inner
  | _, .optional _ inner => Option (Found inner)
  | α, .orElse _ _ => α
  | α, .textOrObject _ _ => α

/-- The result that a schema makes of what it finds. -/
def build : {α : Type} → (schema : Schema α) → schema.Found → α
  | _, .const a, _ => a
  | _, .ap f x, found => build f (Prod.fst found) (build x (Prod.snd found))
  | _, .leaf _, a => a
  | _, .items item, found => List.map (build item) found
  | _, .gaps item, found => List.map (Option.map (build item)) found
  | _, .member _ inner, found => build inner found
  | _, .optional _ inner, found => Option.map (build inner) found
  | _, .orElse _ _, a => a
  | _, .textOrObject _ _, a => a

/-- What is left when the member `key` of the object at the path is lost. -/
def clear : {α : Type} → (schema : Schema α) → Path → String → schema.Found → schema.Found
  | _, .const _, _, _, found => found
  | _, .ap f x, path, key, found => Prod.map (clear f path key) (clear x path key) found
  | _, .leaf _, _, _, found => found
  | _, .items item, path, key, found =>
    match path with
    | .item i :: path => List.modify found i (clear item path key)
    | _ => found
  | _, .gaps item, path, key, found =>
    match path with
    | .item i :: path => List.modify found i (Option.map (clear item path key))
    | _ => found
  | _, .member names inner, path, key, found =>
    match names, path with
    | [name], .member n :: path => if n = name then clear inner path key found else found
    | _, _ => found
  | _, .optional name inner, path, key, found =>
    match path with
    | [] => if key = name then none else found
    | .member n :: path => if n = name then Option.map (clear inner path key) found else found
    | .item _ :: _ => found
  | _, .orElse _ _, _, _, found => found
  | _, .textOrObject _ _, _, _, found => found

/-- A required leaf stays as it is. -/
theorem clear_field {α : Type} (name : String) (kind : Leaf α) (path : Path) (key : String)
    (found : (Schema.field name kind).Found) : (Schema.field name kind).clear path key found = found := by
  obtain _ | ⟨_ | _, path⟩ := path
  · rfl
  · exact ite_self _
  · rfl

/-- What is found in a value, and what of it is left when any one member is lost that no reading
needs. -/
structure Finds {α : Type} (schema : Schema α) (name : String) (v : Json) (found : schema.Found) :
    Prop where
  read : schema.decode name v = .ok (schema.build found)
  left : ∀ path key content, content.bind unlessNull = none → Json.Outside schema.kept path →
    schema.loose (path.map Step.turn) key = true →
    schema.decode name (v.edit path key content) = .ok (schema.build (schema.clear path key found))

section Finds

variable {α β : Type} {name : String} {v : Json}

namespace Finds

theorem ap {f : Schema (α → β)} {x : Schema α} {g : f.Found} {a : x.Found}
    (hf : f.Finds name v g) (hx : x.Finds name v a) :
    (Schema.ap f x).Finds name v ((g, a) : f.Found × x.Found) where
  read := by
    rw [decode, hf.read, hx.read]
    rfl
  left path key content gone outside loose := by
    rw [Schema.loose, Bool.and_eq_true] at loose
    obtain ⟨outsidef, outsidex⟩ := outside_append.1 outside
    have ofF := hf.left path key content gone outsidef loose.1
    have ofX := hx.left path key content gone outsidex loose.2
    rw [decode, ofF, ofX]
    rfl

theorem items {item : Schema α} {vs : List Json} {found : List item.Found}
    (h : List.Forall₂ (item.Finds name) vs found) :
    (Schema.items item).Finds name (.array vs) found := by
  have read : eachItem (item.decode name) vs = .ok (found.map item.build) :=
    eachItem_eq_ok.2 (List.forall₂_map_left_iff.2 (h.flip.imp fun _ _ one => one.read))
  refine ⟨read, fun path key content gone outside loose => ?_⟩
  obtain _ | ⟨_ | i, path⟩ := path
  · exact read
  · exact read
  · refine eachItem_eq_ok.2 (List.forall₂_map_left_iff.2 (forall₂_modify h
      (fun _ _ one => one.read) fun v found _ one => ?_).flip)
    exact one.left path key content gone (outside_map outside rfl) loose

theorem gaps {item : Schema α} {vs : List Json} {found : List (Option item.Found)}
    (h : List.Forall₂ (fun v found => Option.Rel (item.Finds name) (unlessNull v) found) vs found) :
    (Schema.gaps item).Finds name (.array vs) found := by
  have gap {v : Json} {found : Option item.Found}
      (one : Option.Rel (item.Finds name) (unlessNull v) found) :
      gapOr (item.decode name) v = .ok (found.map item.build) := by
    rw [gapOr_eq]
    generalize unlessNull v = shown at one
    cases one with
    | none => rfl
    | some one =>
      rw [optionally, one.read]
      rfl
  have read : eachItem (gapOr (item.decode name)) vs = .ok (found.map (Option.map item.build)) :=
    eachItem_eq_ok.2 (List.forall₂_map_left_iff.2 (h.flip.imp fun _ _ one => gap one))
  refine ⟨read, fun path key content gone outside loose => ?_⟩
  obtain _ | ⟨_ | i, path⟩ := path
  · exact read
  · exact read
  · refine eachItem_eq_ok.2 (List.forall₂_map_left_iff.2 (forall₂_modify h
      (fun _ _ one => gap one) fun v found _ one => ?_).flip)
    rw [gapOr_eq, Json.unlessNull_edit]
    generalize unlessNull v = shown at one
    cases one with
    | none => rfl
    | some one =>
      rw [Option.map_some, optionally, one.left path key content gone (outside_map outside rfl) loose]
      rfl

theorem required {n : String} {inner : Schema α} {shown : Json} {found : inner.Found}
    (here : v.get? n = some shown) (h : inner.Finds n shown found) :
    (Schema.required n inner).Finds name v found := by
  have read : (Schema.required n inner).decode name v = .ok (inner.build found) :=
    decode_required_eq_ok.2 ⟨shown, here, h.read⟩
  refine ⟨read, fun path key content gone outside free => ?_⟩
  obtain _ | ⟨k | i, path⟩ := path
  · have other : key ≠ n := of_decide_eq_true free
    refine decode_required_eq_ok.2 ⟨shown, ?_, h.read⟩
    rw [Json.get?_edit_nil_of_absent v n key content gone, if_neg other, here]
  · change _ = Except.ok (inner.build (if k = n then inner.clear path key found else found))
    have same : (decide (k ≠ n) || inner.loose (path.map Step.turn) key) = true := free
    split
    · next top =>
      subst top
      rw [decide_eq_false (not_not_intro rfl), Bool.false_or] at same
      refine decode_required_eq_ok.2 ⟨_, ?_, h.left path key content gone
        (outside_flatMap (List.mem_singleton_self k) outside) same⟩
      rw [Json.get?_edit_member, if_pos rfl, here, Option.map_some]
    · next other =>
      refine decode_required_eq_ok.2 ⟨shown, ?_, h.read⟩
      rw [Json.get?_edit_member, if_neg other, here]
  · refine decode_required_eq_ok.2 ⟨shown, ?_, h.read⟩
    rw [Json.get?_edit_item, here]

theorem optional {n : String} {inner : Schema α} {found : Option inner.Found}
    (h : Option.Rel (inner.Finds n) (v.get? n) found) :
    (Schema.optional n inner).Finds name v found := by
  have same {w : Json} (here : w.get? n = v.get? n) :
      (Schema.optional n inner).decode name w = .ok (found.map inner.build) := by
    rw [decode_optional, here]
    generalize v.get? n = shown at h
    cases h with
    | none => rfl
    | some one => rw [optionally, one.read]; rfl
  refine ⟨same rfl, fun path key content gone outside free => ?_⟩
  obtain _ | ⟨k | i, path⟩ := path
  · change _ = Except.ok (Option.map inner.build (if key = n then none else found))
    split
    · next top =>
      rw [decode_optional, Json.get?_edit_nil_of_absent v n key content gone, if_pos top]
      rfl
    · next other =>
      exact same (by rw [Json.get?_edit_nil_of_absent v n key content gone, if_neg other])
  · change _ = Except.ok (Option.map inner.build
      (if k = n then Option.map (inner.clear path key) found else found))
    have below : (decide (k ≠ n) || inner.loose (path.map Step.turn) key) = true := free
    split
    · next top =>
      subst top
      rw [decide_eq_false (not_not_intro rfl), Bool.false_or] at below
      rw [decode_optional, Json.get?_edit_member, if_pos rfl]
      generalize v.get? k = shown at h
      cases h with
      | none => rfl
      | some one =>
        rw [Option.map_some, optionally,
          one.left path key content gone (outside_map outside rfl) below]
        rfl
    · next other => exact same (by rw [Json.get?_edit_member, if_neg other])
  · exact same (by rw [Json.get?_edit_item])

/-- What is read whole is left as it is when a member is lost that it does not look for. -/
theorem of_deaf {schema : Schema α} {found : schema.Found}
    (read : schema.decode name v = .ok (schema.build found))
    (whole : ∀ path key, schema.clear path key found = found)
    (deaf : ∀ place key, schema.loose place key = true → schema.deaf place key = true) :
    schema.Finds name v found := by
  refine ⟨read, fun path key content gone outside free => ?_⟩
  rw [whole path key]
  refine (unmoved_edit outside fun looked => ?_).outcome.eq_ok.2 read
  rw [access_eq_none_of_deaf (deaf _ _ free)] at looked
  cases looked

end Finds

theorem exists_forall₂ {γ δ ε : Type} {R : γ → δ → Prop} {f : δ → ε} {l : List γ} {m : List ε}
    (h : List.Forall₂ (fun a c => ∃ b, R a b ∧ f b = c) l m) :
    ∃ n, List.Forall₂ R l n ∧ n.map f = m := by
  induction h with
  | nil => exact ⟨[], .nil, rfl⟩
  | cons first _ ih =>
    obtain ⟨b, one, rfl⟩ := first
    obtain ⟨n, rest, rfl⟩ := ih
    exact ⟨b :: n, .cons one rest, rfl⟩

/-- Whatever is accepted, something was found. -/
theorem finds_of_decode {schema : Schema α} {a : α} (h : schema.decode name v = .ok a) :
    ∃ found, schema.Finds name v found ∧ schema.build found = a := by
  induction schema generalizing name v with
  | const b =>
    cases h
    exact ⟨(), ⟨rfl, fun _ _ _ _ _ _ => rfl⟩, rfl⟩
  | ap f x ihf ihx =>
    obtain ⟨g, readf, b, readx, rfl⟩ := (decode_seq_eq_ok (f := f) (x := x)).1 h
    obtain ⟨g, foundf, rfl⟩ := ihf readf
    obtain ⟨b, foundx, rfl⟩ := ihx readx
    exact ⟨(g, b), foundf.ap foundx, rfl⟩
  | leaf kind => exact ⟨a, .of_deaf h (fun _ _ => rfl) fun _ _ _ => rfl, rfl⟩
  | items item ih =>
    cases v with
    | array vs =>
      obtain ⟨found, each, rfl⟩ := exists_forall₂ ((eachItem_eq_ok.1 h).flip.imp fun _ _ => ih)
      exact ⟨found, .items each, rfl⟩
    | _ => cases h
  | gaps item ih =>
    cases v with
    | array vs =>
      have gap (v : Json) (b : Option _) (read : gapOr (item.decode name) v = .ok b) :
          ∃ found, Option.Rel (item.Finds name) (unlessNull v) found ∧
            found.map item.build = b := by
        rw [gapOr_eq] at read
        cases shown : unlessNull v with
        | none =>
          rw [shown] at read
          cases read
          exact ⟨none, .none, rfl⟩
        | some w =>
          rw [shown] at read
          obtain ⟨b, readItem, rfl⟩ := map_eq_ok.1 read
          obtain ⟨found, one, rfl⟩ := ih readItem
          exact ⟨some found, .some one, rfl⟩
      obtain ⟨found, each, rfl⟩ := exists_forall₂ ((eachItem_eq_ok.1 h).flip.imp gap)
      exact ⟨found, .gaps each, rfl⟩
    | _ => cases h
  | member names inner ih =>
    obtain _ | ⟨n, _ | ⟨m, rest⟩⟩ := names
    · cases h
    · obtain ⟨shown, here, read⟩ := decode_required_eq_ok.1 h
      obtain ⟨found, one, rfl⟩ := ih read
      exact ⟨found, .required here one, rfl⟩
    · -- Which of several names comes first may depend on what is lost, so none of them is loose.
      have read := h
      rw [decode] at read
      split at read
      · cases read
      · obtain ⟨found, -, rfl⟩ := ih read
        exact ⟨found, .of_deaf h (fun _ _ => rfl) fun _ _ free => free, rfl⟩
  | optional n inner ih =>
    rw [decode_optional] at h
    cases here : v.get? n with
    | none =>
      rw [here] at h
      cases h
      exact ⟨none, .optional (here ▸ .none), rfl⟩
    | some shown =>
      rw [here] at h
      obtain ⟨b, read, rfl⟩ := map_eq_ok.1 h
      obtain ⟨found, one, rfl⟩ := ih read
      exact ⟨some found, .optional (here ▸ .some one), rfl⟩
  | orElse first second =>
    exact ⟨a, .of_deaf h (fun _ _ => rfl) fun _ _ free => free, rfl⟩
  | textOrObject text object =>
    exact ⟨a, .of_deaf h (fun _ _ => rfl) fun _ _ free => free, rfl⟩

end Finds

end Schema

/-- The numbers of the items on a path. -/
def Json.indices : Path → List Nat
  | [] => []
  | .member _ :: path => indices path
  | .item i :: path => i :: indices path

/-- The path through some members. -/
def Json.through (names : List String) (path : Path) : Path := names.map Step.member ++ path

theorem Json.indices_through (names : List String) (path : Path) :
    indices (through names path) = indices path := by
  induction names with
  | nil => rfl
  | cons name rest ih => exact ih

theorem Json.eq_through {names : List String} {path : Path} {place : List Turn}
    (h : path.map Step.turn = names.map Turn.member ++ place) :
    ∃ rest, path = through names rest ∧ rest.map Step.turn = place := by
  induction names generalizing path with
  | nil => exact ⟨path, rfl, h⟩
  | cons name names ih =>
    obtain _ | ⟨_ | _, path⟩ := path
    · cases h
    · obtain ⟨top, below⟩ := List.cons.inj h
      cases top
      obtain ⟨rest, rfl, same⟩ := ih below
      exact ⟨rest, rfl, same⟩
    · cases h

/-- Losing the member `key` of the object at the path empties a part of what is read. -/
def Schema.Clears {α : Type} (schema : Schema α) (path : Path) (key : String) (clear : α → α) :
    Prop :=
  ∀ found, schema.build (schema.clear path key found) = clear (schema.build found)

/-- A part of what is read that is empty where a member is absent. -/
structure Vacancy {α : Type} (schema : Schema α) where
  place : List Turn
  key : String
  /-- Empties the part; the numbers are those of the items on the way to it. -/
  clear : List Nat → α → α
  clears : ∀ path, path.map Step.turn = place →
    schema.Clears path key (clear (Json.indices path))

namespace Schema.Clears

variable {β : Type} {part : Schema β} {path : Path} {key : String} {clear : β → β}

theorem option (h : part.Clears path key clear) (found : Option part.Found) :
    (found.map (part.clear path key)).map part.build = (found.map part.build).map clear := by
  cases found with
  | none => rfl
  | some found => exact congrArg some (h found)

theorem list (h : part.Clears path key clear) (i : Nat) (found : List part.Found) :
    (found.modify i (part.clear path key)).map part.build =
      (found.map part.build).modify i clear := by
  induction found generalizing i with
  | nil => cases i <;> rfl
  | cons first rest ih =>
    cases i with
    | zero => exact congrArg (· :: _) (h first)
    | succ i => exact congrArg (_ :: ·) (ih i)

/-- An absent list is as good as an empty one. -/
theorem listOrEmpty (h : part.Clears path key clear) (i : Nat) (found : Option (List part.Found)) :
    ((found.map fun l => l.modify i (part.clear path key)).map (List.map part.build)).getD [] =
      ((found.map (List.map part.build)).getD []).modify i clear := by
  cases found with
  | none => cases i <;> rfl
  | some found => exact h.list i found

/-- What is absent as a whole stays so. -/
theorem none_of_optional {name : String} {clear : Option β → Option β}
    (h : (Schema.optional name part).Clears path key clear) : clear none = none := by
  refine (h none).symm.trans ?_
  obtain _ | ⟨_ | _, path⟩ := path
  · exact congrArg (Option.map part.build) (ite_self none)
  · exact congrArg (Option.map part.build) (ite_self none)
  · rfl

theorem join {name : String} {clear : Option β → Option β}
    (h : (Schema.optional name part).Clears path key clear)
    (found : Option (Schema.optional name part).Found) :
    ((found.map ((Schema.optional name part).clear path key)).map
        (Schema.optional name part).build).join =
      clear (found.map (Schema.optional name part).build).join := by
  cases found with
  | none => exact h.none_of_optional.symm
  | some found => exact h found

end Schema.Clears

namespace Vacancy

variable {α β : Type} {schema : Schema α} {part : Schema β}

/-- A part that is read of a member of the object at the end of some members. -/
def behind (names : List String) (key : String) (clear : α → α)
    (clears : schema.Clears (Json.through names []) key clear) : Vacancy schema where
  place := names.map Turn.member
  key := key
  clear _ := clear
  clears := by
    intro path here
    obtain ⟨rest, rfl, last⟩ := Json.eq_through (here.trans (List.append_nil _).symm)
    obtain rfl := List.map_eq_nil_iff.1 last
    exact clears

/-- A part of what is read at the end of some members. -/
def within (names : List String) (lift : (β → β) → α → α)
    (clears : ∀ path key clear, part.Clears path key clear →
      schema.Clears (Json.through names path) key (lift clear))
    (vacancy : Vacancy part) : Vacancy schema where
  place := names.map Turn.member ++ vacancy.place
  key := vacancy.key
  clear indices := lift (vacancy.clear indices)
  clears := by
    intro path here
    obtain ⟨rest, rfl, below⟩ := Json.eq_through here
    rw [Json.indices_through]
    exact clears rest _ _ (vacancy.clears rest below)

/-- A part of each item of a list that is read at the end of some members. -/
def each (names : List String) (lift : (List β → List β) → α → α)
    (clears : ∀ i path key clear, part.Clears path key clear →
      schema.Clears (Json.through names (.item i :: path)) key (lift fun l => l.modify i clear))
    (vacancy : Vacancy part) : Vacancy schema where
  place := names.map Turn.member ++ .item :: vacancy.place
  key := vacancy.key
  clear
    | [] => id
    | i :: indices => lift fun l => l.modify i (vacancy.clear indices)
  clears := by
    intro path here
    obtain ⟨_ | ⟨_ | i, rest⟩, rfl, below⟩ := Json.eq_through here
    · cases below
    · cases below
    · rw [Json.indices_through]
      exact clears i rest _ _ (vacancy.clears rest (List.cons.inj below).2)

/-- A part of what is read of a required member, seen from outside. -/
def required (name : String) (vacancy : Vacancy schema) : Vacancy (.required name schema) :=
  .within [name] id (fun _ _ _ (h : schema.Clears ..) (found : schema.Found) =>
    (congrArg schema.build (if_pos rfl)).trans (h found)) vacancy

end Vacancy

/-- What is left of an accepted value when the member of a vacancy is lost. -/
theorem Schema.decode_edit_of_vacancy {α : Type} {schema : Schema α} {name : String} {v : Json}
    {a : α} {path : Path} {content : Option Json} (read : schema.decode name v = .ok a)
    (outside : Json.Outside schema.kept path) (gone : content.bind unlessNull = none)
    (vacancy : Vacancy schema) (here : path.map Step.turn = vacancy.place)
    (free : schema.loose vacancy.place vacancy.key = true) :
    schema.decode name (v.edit path vacancy.key content) =
      .ok (vacancy.clear (Json.indices path) a) := by
  obtain ⟨found, finds, rfl⟩ := finds_of_decode read
  rw [finds.left path vacancy.key content gone outside (here ▸ free), vacancy.clears path here]

end Tendermint
