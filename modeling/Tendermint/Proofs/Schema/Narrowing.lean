import Tendermint.Proofs.Schema.Refusal

/-!
# Tendermint.Proofs.Schema.Narrowing

Schemas that differ in nothing but the key types that they take, and how little of a reading
depends on these.

* `Schema.Narrows`: one schema is another one less a key type.
* `Schema.Narrows.decode`: it reads the same, or it refuses a key of that type.
* `Schema.keyPlaces`, `Schema.keyPlace_of_decode`: where such a key stands.
-/

namespace Tendermint

namespace Schema

/-- The first schema is the second one less the key type `dropped`. -/
inductive Narrows (dropped : String) : {α : Type} → Schema α → Schema α → Prop where
  | same {α : Type} (schema : Schema α) : Narrows dropped schema schema
  | ap {α β : Type} {f g : Schema (α → β)} {x y : Schema α} :
      Narrows dropped f g → Narrows dropped x y → Narrows dropped (.ap f x) (.ap g y)
  | keyType {fewer more : List String}
      (h : ∀ kind, kind ∈ more ↔ kind = dropped ∨ kind ∈ fewer) :
      Narrows dropped (.leaf (.keyType fewer)) (.leaf (.keyType more))
  | items {α : Type} {item other : Schema α} :
      Narrows dropped item other → Narrows dropped (.items item) (.items other)
  | gaps {α : Type} {item other : Schema α} :
      Narrows dropped item other → Narrows dropped (.gaps item) (.gaps other)
  | member {α : Type} {names : List String} {inner other : Schema α} :
      Narrows dropped inner other → Narrows dropped (.member names inner) (.member names other)
  | optional {α : Type} {name : String} {inner other : Schema α} :
      Narrows dropped inner other → Narrows dropped (.optional name inner) (.optional name other)
  | orElse {α : Type} {first first' : Schema (Option α)} {second second' : Schema α} :
      Narrows dropped first first' → Narrows dropped second second' →
      Narrows dropped (.orElse first second) (.orElse first' second')
  | textOrObject {α : Type} {text text' object object' : Schema α} :
      Narrows dropped text text' → Narrows dropped object object' →
      Narrows dropped (.textOrObject text object) (.textOrObject text' object')

/-- Where the type of a key is read. -/
def keyPlaces {α : Type} : Schema α → List (List Turn)
  | .const _ => []
  | .ap f x => keyPlaces f ++ keyPlaces x
  | .leaf kind => if kind.isKeyType then [[]] else []
  | .items item => (keyPlaces item).map (.item :: ·)
  | .gaps item => (keyPlaces item).map (.item :: ·)
  | .member names inner => names.flatMap fun name => (keyPlaces inner).map (.member name :: ·)
  | .optional name inner => (keyPlaces inner).map (.member name :: ·)
  | .orElse first second => keyPlaces first ++ keyPlaces second
  | .textOrObject text object => keyPlaces text ++ keyPlaces object

variable {α : Type} {dropped kind : String} {name : String} {v : Json}

/-! ## What a narrower schema reads -/

/-- The first outcome is the second, or the refusal of a key of the dropped type. -/
def Narrowed (dropped : String) (x y : Except DecodeError α) : Prop :=
  x = y ∨ x = .error (.unknownKeyType dropped)

theorem Narrowed.map {β : Type} {x y : Except DecodeError α} (f : α → β)
    (h : Narrowed dropped x y) : Narrowed dropped (x.map f) (y.map f) := by
  obtain rfl | rfl := h
  · exact .inl rfl
  · exact .inr rfl

theorem narrowed_eachItem {read other : Json → Except DecodeError α}
    (h : ∀ v, Narrowed dropped (read v) (other v)) (vs : List Json) :
    Narrowed dropped (eachItem read vs) (eachItem other vs) := by
  induction vs with
  | nil => exact .inl rfl
  | cons v rest ih =>
    rw [eachItem, eachItem]
    obtain same | refused := h v
    · rw [same]
      cases other v with
      | error e => exact .inl rfl
      | ok a =>
        obtain same | refused := ih
        · rw [same]
          exact .inl rfl
        · rw [refused]
          exact .inr rfl
    · rw [refused]
      exact .inr rfl

theorem narrowed_keyType {fewer more : List String}
    (h : ∀ kind, kind ∈ more ↔ kind = dropped ∨ kind ∈ fewer) (name : String) (v : Json) :
    Narrowed dropped (Leaf.readKeyType fewer name v) (Leaf.readKeyType more name v) := by
  unfold Leaf.readKeyType
  cases Leaf.readString name v with
  | error e => exact .inl rfl
  | ok kind =>
    dsimp only
    by_cases known : kind ∈ fewer
    · rw [if_pos known, if_pos ((h kind).2 (.inr known))]
      exact .inl rfl
    · by_cases same : kind = dropped
      · subst same
        exact .inr (if_neg known)
      · have unknown : kind ∉ more := fun listed => ((h kind).1 listed).elim same known
        rw [if_neg known, if_neg unknown]
        exact .inl rfl

/-- A narrower schema reads what the wider one reads, or it refuses a key of the dropped type. -/
theorem Narrows.decode {schema wider : Schema α} (h : Narrows dropped schema wider)
    (name : String) (v : Json) :
    Narrowed dropped (schema.decode name v) (wider.decode name v) := by
  induction h generalizing name v with
  | same schema => exact .inl rfl
  | keyType h => exact narrowed_keyType h name v
  | @ap _ _ f g x y _ _ ihf ihx =>
    rw [Schema.decode, Schema.decode]
    obtain same | refused := ihf name v
    · rw [same]
      cases g.decode name v with
      | error e => exact .inl rfl
      | ok made =>
        obtain same | refused := ihx name v
        · rw [same]
          exact .inl rfl
        · rw [refused]
          exact .inr rfl
    · rw [refused]
      exact .inr rfl
  | items _ ih =>
    cases v with
    | array vs => exact narrowed_eachItem (ih name) vs
    | _ => exact .inl rfl
  | gaps _ ih =>
    cases v with
    | array vs =>
      refine narrowed_eachItem (fun v => ?_) vs
      cases v with
      | null => exact .inl rfl
      | _ => exact (ih name _).map some
    | _ => exact .inl rfl
  | @member _ names inner other _ ih =>
    rw [Schema.decode, Schema.decode]
    cases firstPresent v names with
    | none => exact .inl rfl
    | some found => exact ih found.1 found.2
  | @optional _ n inner other _ ih =>
    rw [Schema.decode, Schema.decode]
    cases v.get? n with
    | none => exact .inl rfl
    | some found => exact (ih n found).map some
  | @orElse _ first first' second second' _ _ ihf ihs =>
    rw [Schema.decode, Schema.decode]
    obtain same | refused := ihf name v
    · rw [same]
      obtain e | _ | a := first'.decode name v
      · exact .inl rfl
      · exact ihs name v
      · exact .inl rfl
    · rw [refused]
      exact .inr rfl
  | textOrObject _ _ iht iho =>
    cases v with
    | string text => exact iht name _
    | object members => exact iho name _
    | _ => exact .inl rfl

/-! ## Where a key is refused -/

theorem eq_string_of_leaf {leaf : Leaf α}
    (h : leaf.read name v = .error (.unknownKeyType kind)) :
    leaf.isKeyType = true ∧ v = .string kind := by
  obtain ⟨-, a, read⟩ | ⟨-, e, read, blamed⟩ := leaf.judges name v
  · rw [read] at h
    cases h
  · rw [read] at h
    cases h
    cases leaf with
    | keyType accepted =>
      cases v with
      | string text =>
        cases blamed
        exact ⟨rfl, rfl⟩
      | _ =>
        obtain ⟨reason, other⟩ := blamed
        cases other
    | _ =>
      obtain ⟨reason, other⟩ := blamed
      cases other

theorem exists_error_of_eachItem {read : Json → Except DecodeError α} {vs : List Json}
    {e : DecodeError} (h : eachItem read vs = .error e) : ∃ v ∈ vs, read v = .error e := by
  induction vs with
  | nil => cases h
  | cons v rest ih =>
    rw [eachItem] at h
    cases first : read v with
    | error other =>
      rw [first] at h
      cases h
      exact ⟨v, List.mem_cons_self, first⟩
    | ok a =>
      rw [first] at h
      cases others : eachItem read rest with
      | error other =>
        rw [others] at h
        cases h
        obtain ⟨w, mem, failed⟩ := ih others
        exact ⟨w, List.mem_cons_of_mem _ mem, failed⟩
      | ok more =>
        rw [others] at h
        cases h

theorem map_eq_error {β ε : Type} {x : Except ε α} {f : α → β} {e : ε} :
    x.map f = .error e ↔ x = .error e := by
  cases x <;> simp [Except.map]

theorem error_of_ap {β : Type} {f : Schema (α → β)} {x : Schema α} {e : DecodeError}
    (h : (ap f x).decode name v = .error e) :
    f.decode name v = .error e ∨ x.decode name v = .error e := by
  rw [Schema.decode] at h
  cases readf : f.decode name v with
  | error other =>
    rw [readf] at h
    cases h
    exact .inl rfl
  | ok made =>
    rw [readf] at h
    cases readx : x.decode name v with
    | error other =>
      rw [readx] at h
      cases h
      exact .inr rfl
    | ok a =>
      rw [readx] at h
      cases h

theorem error_of_orElse {first : Schema (Option α)} {second : Schema α} {e : DecodeError}
    (h : (orElse first second).decode name v = .error e) :
    first.decode name v = .error e ∨ second.decode name v = .error e := by
  rw [Schema.decode] at h
  rcases readf : first.decode name v with other | _ | a
  · rw [readf] at h
    cases h
    exact .inl rfl
  · rw [readf] at h
    exact .inr h
  · rw [readf] at h
    cases h

/-- A refused key stands where the schema reads the type of a key. -/
theorem keyPlace_of_decode {schema : Schema α}
    (h : schema.decode name v = .error (.unknownKeyType kind)) :
    ∃ place ∈ schema.keyPlaces, Json.At place v (.string kind) := by
  induction schema generalizing name v with
  | const a => cases h
  | leaf leaf =>
    obtain ⟨reads, rfl⟩ := eq_string_of_leaf h
    exact ⟨[], by simp [keyPlaces, reads], rfl⟩
  | ap f x ihf ihx =>
    obtain refused | refused := error_of_ap h
    · obtain ⟨place, known, here⟩ := ihf refused
      exact ⟨place, List.mem_append_left _ known, here⟩
    · obtain ⟨place, known, here⟩ := ihx refused
      exact ⟨place, List.mem_append_right _ known, here⟩
  | items item ih =>
    cases v with
    | array vs =>
      obtain ⟨v, mem, failed⟩ := exists_error_of_eachItem h
      obtain ⟨place, known, here⟩ := ih failed
      exact ⟨_, List.mem_map_of_mem known, vs, rfl, v, mem, here⟩
    | _ => cases h
  | gaps item ih =>
    cases v with
    | array vs =>
      obtain ⟨v, mem, failed⟩ := exists_error_of_eachItem h
      cases v with
      | null => cases failed
      | _ =>
        obtain ⟨place, known, here⟩ := ih (map_eq_error.1 failed)
        exact ⟨_, List.mem_map_of_mem known, vs, rfl, _, mem, here⟩
    | _ => cases h
  | member names inner ih =>
    rw [Schema.decode] at h
    cases first : firstPresent v names with
    | none =>
      rw [first] at h
      cases h
    | some found =>
      rw [first] at h
      obtain ⟨place, known, here⟩ := ih h
      obtain ⟨named, present⟩ := mem_of_firstPresent first
      exact ⟨_, List.mem_flatMap.2 ⟨found.1, named, List.mem_map_of_mem known⟩, found.2, present,
        here⟩
  | optional n inner ih =>
    rw [Schema.decode] at h
    cases present : v.get? n with
    | none =>
      rw [present] at h
      cases h
    | some found =>
      rw [present] at h
      obtain ⟨place, known, here⟩ := ih (map_eq_error.1 h)
      exact ⟨_, List.mem_map_of_mem known, found, present, here⟩
  | orElse first second ihf ihs =>
    obtain refused | refused := error_of_orElse h
    · obtain ⟨place, known, here⟩ := ihf refused
      exact ⟨place, List.mem_append_left _ known, here⟩
    · obtain ⟨place, known, here⟩ := ihs refused
      exact ⟨place, List.mem_append_right _ known, here⟩
  | textOrObject text object iht iho =>
    cases v with
    | string s =>
      obtain ⟨place, known, here⟩ := iht h
      exact ⟨place, List.mem_append_left _ known, here⟩
    | object members =>
      obtain ⟨place, known, here⟩ := iho h
      exact ⟨place, List.mem_append_right _ known, here⟩
    | _ => cases h

end Schema

end Tendermint
