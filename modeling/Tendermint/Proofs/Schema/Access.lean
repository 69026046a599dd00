import Tendermint.Proofs.Json.Edit
import Tendermint.Proofs.Schema.Lookup

/-!
# Tendermint.Proofs.Schema.Access

How a schema gets at the members of a value, and what becomes of the reading when one of them
changes. A member that nothing looks for may hold anything, or be removed or added.

* `Schema.access`: how a member is read, where it is read first.
* `Schema.unmoved_edit`: a member that is not looked for makes no difference.
-/

namespace Tendermint

open Json (Path Step unlessNull OneKind)

/-- An error without the text that explains it. -/
def DecodeError.bare : DecodeError → DecodeError
  | .invalidField name _ => .invalidField name ""
  | e => e

/-- The same value, or errors that differ at most in the text that explains them. -/
def SameOutcome {α : Type} (x y : Except DecodeError α) : Prop :=
  x.mapError DecodeError.bare = y.mapError DecodeError.bare

/-- The place of a step, which is the same for all items of a list. -/
def Json.Step.turn : Step → Turn
  | .member name => .member name
  | .item _ => .item

/-- A path that does not lead to one of the places or into what stands there. -/
def Json.Outside (places : List (List Turn)) (path : Path) : Prop :=
  ∀ place ∈ places, ¬ place <+: path.map Step.turn

/-- New content that makes no difference to what is found in the object. -/
def Json.Idle (value : Json) (path : Path) (key : String) (content : Option Json) : Prop :=
  ∀ o, value.find? path = some o → ∀ k, (o.edit [] key content).get? k = o.get? k

/-- Whether the absence of a member is an error; `σ` is what leads from a value to its parts. -/
inductive Need (σ : Type) where
  | optional
  /-- One of the members `names` of the same object has to be there. -/
  | required (names : List String)
  /-- Where it is absent, one of the members `names` of the object at `place` has to be there. -/
  | instead (place : List σ) (names : List String)
  deriving DecidableEq, Repr

namespace Need

variable {σ τ : Type}

def under (step : σ) : Need σ → Need σ
  | .instead place names => .instead (step :: place) names
  | need => need

/-- With a last resort, a member that may be absent is needed unless that is there. -/
def insteadOf (names : List String) : Need σ → Need σ
  | .optional => .instead [] names
  | need => need

def map (f : σ → τ) : Need σ → Need τ
  | .optional => .optional
  | .required names => .required names
  | .instead place names => .instead (place.map f) names

end Need

/-- How a member is read. -/
structure Access where
  need : Need Step
  {type : Type}
  reader : Schema type

namespace Access

def under (step : Step) (access : Access) : Access := { access with need := access.need.under step }

def insteadOf (names : List String) (access : Access) : Access :=
  { access with need := access.need.insteadOf names }

end Access

/-- The leaves that depend on all of a value, whatever its members are. -/
def Leaf.isWhole {α : Type} : Leaf α → Bool
  | .json | .settings => true
  | _ => false

namespace Schema

/-- The members that are looked for until the first one is present. -/
def tried (value : Json) : List String → List String
  | [] => []
  | name :: rest => name :: if (value.get? name).isSome then [] else tried value rest

/-- The members that are looked for at last. -/
def lastNames {α : Type} : Schema α → List String
  | .member names _ => names
  | _ => []

/-- How the member `key` of the object at the path is read, where it is read first. -/
def access {α : Type} : Schema α → String → Json → Path → String → Option Access
  | .const _, _, _, _, _ => none
  | .ap f x, name, value, path, key =>
    (access f name value path key).or (access x name value path key)
  | .leaf _, _, _, _, _ => none
  | .items item, name, .array values, .item i :: path, key =>
    (values[i]?).bind fun v => (access item name v path key).map (Access.under (.item i))
  | .items _, _, _, _, _ => none
  | .gaps item, name, .array values, .item i :: path, key =>
    ((values[i]?).bind unlessNull).bind fun v =>
      (access item name v path key).map (Access.under (.item i))
  | .gaps _, _, _, _, _ => none
  | .member names inner, _, value, [], key =>
    if key ∈ tried value names then some ⟨.required names, inner⟩ else none
  | .member names inner, _, value, .member k :: path, key =>
    (firstPresent value names).bind fun found =>
      if found.1 = k then (access inner k found.2 path key).map (Access.under (.member k)) else none
  | .member _ _, _, _, .item _ :: _, _ => none
  | .optional name inner, _, _, [], key =>
    if key = name then some ⟨.optional, inner⟩ else none
  | .optional name inner, _, value, .member k :: path, key =>
    if k = name then
      (value.get? k).bind fun v => (access inner k v path key).map (Access.under (.member k))
    else none
  | .optional _ _, _, _, .item _ :: _, _ => none
  | .orElse first second, name, value, path, key =>
    ((access first name value path key).map (Access.insteadOf second.lastNames)).or
      (match decode first name value with
        | .ok none => access second name value path key
        | _ => none)
  | .textOrObject text object, name, value, path, key =>
    match value with
    | .string _ => access text name value path key
    | .object _ => access object name value path key
    | _ => none

/-- Where a value is kept whole. -/
def kept {α : Type} : Schema α → List (List Turn)
  | .const _ => []
  | .ap f x => kept f ++ kept x
  | .leaf kind => if kind.isWhole then [[]] else []
  | .items item => (kept item).map (.item :: ·)
  | .gaps item => (kept item).map (.item :: ·)
  | .member names inner => names.flatMap fun name => (kept inner).map (.member name :: ·)
  | .optional name inner => (kept inner).map (.member name :: ·)
  | .orElse first second => kept first ++ kept second
  | .textOrObject text object => kept text ++ kept object

attribute [grind =] tried access kept

end Schema

section Outcome

variable {α β : Type}

@[refl] theorem SameOutcome.refl (x : Except DecodeError α) : SameOutcome x x := rfl

theorem SameOutcome.map {x y : Except DecodeError α} (f : α → β) (h : SameOutcome x y) :
    SameOutcome (x.map f) (y.map f) := by
  cases x <;> cases y <;> simp_all [SameOutcome, Except.mapError, Except.map]

theorem SameOutcome.trans {x y z : Except DecodeError α} (first : SameOutcome x y)
    (second : SameOutcome y z) : SameOutcome x z :=
  Eq.trans first second

theorem SameOutcome.eq_ok {x y : Except DecodeError α} {a : α} (h : SameOutcome x y) :
    x = .ok a ↔ y = .ok a := by
  cases x <;> cases y <;> simp_all [SameOutcome, Except.mapError]

/-- The outcomes are the same value, or two errors. -/
theorem SameOutcome.cases {x y : Except DecodeError α} (h : SameOutcome x y) :
    (∃ a, x = .ok a ∧ y = .ok a) ∨
      ∃ e e', x = .error e ∧ y = .error e' ∧ e.bare = e'.bare := by
  cases x <;> cases y <;> simp_all [SameOutcome, Except.mapError]

theorem SameOutcome.of_bare {e e' : DecodeError} (h : e.bare = e'.bare) :
    SameOutcome (.error e : Except DecodeError α) (.error e') :=
  congrArg Except.error h

end Outcome

theorem Leaf.read_oneKind {α : Type} {kind : Leaf α} (name : String) {v w : Json}
    (scalar : kind.isWhole = false) (h : OneKind v w) :
    SameOutcome (kind.read name w) (kind.read name v) := by
  cases h with
  | same => rfl
  | _ => cases kind <;> first | rfl | cases scalar

namespace Schema

section Lists

variable {γ δ : Type}

theorem rel_refl (R : γ → γ → Prop) (refl : ∀ a, R a a) (o : Option γ) : Option.Rel R o o := by
  cases o with
  | none => exact .none
  | some a => exact .some (refl a)

theorem getElem?_of_forall₂ {R : γ → δ → Prop} {l : List γ} {m : List δ} (h : List.Forall₂ R l m)
    (i : Nat) : Option.Rel R l[i]? m[i]? := by
  induction h generalizing i with
  | nil => exact .none
  | cons first _ ih =>
    cases i with
    | zero => exact .some first
    | succ i => exact ih i

theorem forall₂_modify {R S : γ → δ → Prop} {f : γ → γ} {g : δ → δ} {l : List γ} {m : List δ}
    {i : Nat} (h : List.Forall₂ R l m) (same : ∀ a b, R a b → S a b)
    (changed : ∀ a b, l[i]? = some a → R a b → S (f a) (g b)) :
    List.Forall₂ S (l.modify i f) (m.modify i g) := by
  induction h generalizing i with
  | nil => cases i <;> exact .nil
  | cons first rest ih =>
    cases i with
    | zero => exact .cons (changed _ _ rfl first) (rest.imp same)
    | succ i => exact .cons (same _ _ first) (ih changed)

theorem forall₂_modify_self {R : γ → γ → Prop} {change : γ → γ} {l : List γ} {i : Nat}
    (refl : ∀ a, R a a) (h : ∀ a, l[i]? = some a → R a (change a)) :
    List.Forall₂ R l (l.modify i change) := by
  have kept : List.Forall₂ R (l.modify i id) (l.modify i change) := by
    refine forall₂_modify (List.forall₂_same.2 fun _ _ => rfl) ?_ ?_
    · rintro a _ rfl
      exact refl a
    · rintro a _ here rfl
      exact h a here
  rwa [List.modify_id] at kept

end Lists

variable {α β : Type} {name : String} {v w : Json}

/-- A schema reads the second value as it reads the first, and looks for the same members. -/
structure Unmoved (schema : Schema α) (name : String) (v w : Json) : Prop where
  outcome : SameOutcome (schema.decode name w) (schema.decode name v)
  access : ∀ path key, schema.access name w path key = schema.access name v path key

namespace Unmoved

theorem refl (schema : Schema α) (name : String) (v : Json) : schema.Unmoved name v v :=
  ⟨rfl, fun _ _ => rfl⟩

theorem trans {schema : Schema α} {u : Json} (first : schema.Unmoved name v w)
    (second : schema.Unmoved name w u) : schema.Unmoved name v u :=
  ⟨second.outcome.trans first.outcome, fun path key =>
    (second.access path key).trans (first.access path key)⟩

theorem ap {f : Schema (α → β)} {x : Schema α} (hf : f.Unmoved name v w) (hx : x.Unmoved name v w) :
    (Schema.ap f x).Unmoved name v w where
  outcome := by
    rw [decode, decode]
    obtain ⟨g, read, read'⟩ | ⟨e, e', read, read', same⟩ := hf.outcome.cases
    · rw [read, read']
      obtain ⟨a, readx, readx'⟩ | ⟨e, e', readx, readx', same⟩ := hx.outcome.cases
      · rw [readx, readx']
      · rw [readx, readx']
        exact .of_bare same
    · rw [read, read']
      exact .of_bare same
  access path key := by rw [Schema.access, Schema.access, hf.access, hx.access]

theorem eachItem {read : Json → Except DecodeError α} {vs ws : List Json}
    (h : List.Forall₂ (fun v w => SameOutcome (read w) (read v)) vs ws) :
    SameOutcome (eachItem read ws) (eachItem read vs) := by
  induction h with
  | nil => rfl
  | @cons v w vs ws first _ ih =>
    rw [Schema.eachItem, Schema.eachItem]
    obtain ⟨a, read, read'⟩ | ⟨e, e', read, read', same⟩ := first.cases
    · rw [read, read']
      obtain ⟨l, rest, rest'⟩ | ⟨e, e', rest, rest', same⟩ := ih.cases
      · rw [rest, rest']
      · rw [rest, rest']
        exact .of_bare same
    · rw [read, read']
      exact .of_bare same

theorem items {item : Schema α} {vs ws : List Json} (h : List.Forall₂ (item.Unmoved name) vs ws) :
    (Schema.items item).Unmoved name (.array vs) (.array ws) where
  outcome := eachItem (h.imp fun _ _ one => one.outcome)
  access path key := by
    obtain _ | ⟨_ | i, path⟩ := path
    · rfl
    · rfl
    · rw [Schema.access, Schema.access]
      have one := getElem?_of_forall₂ h i
      generalize vs[i]? = found, ws[i]? = found' at one
      cases one with
      | none => rfl
      | some one => simp only [Option.bind_some, one.access]

theorem gaps {item : Schema α} {vs ws : List Json}
    (h : List.Forall₂ (fun v w => Option.Rel (item.Unmoved name) (unlessNull v) (unlessNull w)) vs ws) :
    (Schema.gaps item).Unmoved name (.array vs) (.array ws) where
  outcome := by
    refine eachItem (h.imp fun v w one => ?_)
    rw [gapOr_eq, gapOr_eq]
    generalize unlessNull v = found, unlessNull w = found' at one
    cases one with
    | none => rfl
    | some one => exact one.outcome.map some
  access path key := by
    obtain _ | ⟨_ | i, path⟩ := path
    · rfl
    · rfl
    · rw [Schema.access, Schema.access]
      have one := getElem?_of_forall₂ h i
      generalize vs[i]? = item, ws[i]? = item' at one
      cases one with
      | none => rfl
      | @some v w one =>
        simp only [Option.bind_some]
        generalize unlessNull v = found, unlessNull w = found' at one
        cases one with
        | none => rfl
        | some one => simp only [Option.bind_some, one.access]

/-- What is found first among some members, if each of those looked for is found alike. -/
theorem tried_firstPresent {R : String → Json → Json → Prop} {names : List String}
    (each : ∀ n ∈ tried v names, Option.Rel (R n) (v.get? n) (w.get? n)) :
    tried w names = tried v names ∧
      Option.Rel (fun a b => a.1 = b.1 ∧ R a.1 a.2 b.2) (firstPresent v names)
        (firstPresent w names) := by
  induction names with
  | nil => exact ⟨rfl, .none⟩
  | cons n rest ih =>
    rw [tried, List.forall_mem_cons] at each
    obtain ⟨first, later⟩ := each
    rw [tried, tried, firstPresent, firstPresent]
    generalize v.get? n = found, w.get? n = found' at first later
    cases first with
    | none =>
      obtain ⟨same, found⟩ := ih later
      exact ⟨congrArg (n :: ·) same, found⟩
    | some first => exact ⟨rfl, .some ⟨rfl, first⟩⟩

theorem member {names : List String} {inner : Schema α}
    (each : ∀ n ∈ tried v names, Option.Rel (inner.Unmoved n) (v.get? n) (w.get? n)) :
    (Schema.member names inner).Unmoved name v w := by
  obtain ⟨same, found⟩ := tried_firstPresent each
  generalize first : firstPresent v names = a, first' : firstPresent w names = b at found
  constructor
  · rw [decode, decode, first, first']
    cases found with
    | none => rfl
    | @some a b one =>
      obtain ⟨n, v⟩ := a
      obtain ⟨_, w⟩ := b
      obtain ⟨rfl, one⟩ := one
      exact one.outcome
  · intro path key
    obtain _ | ⟨k | _, path⟩ := path
    · rw [Schema.access, Schema.access, same]
    · rw [Schema.access, Schema.access, first, first']
      cases found with
      | none => rfl
      | @some a b one =>
        obtain ⟨n, v⟩ := a
        obtain ⟨_, w⟩ := b
        obtain ⟨rfl, one⟩ := one
        simp only [Option.bind_some]
        split
        · next here => rw [← here, one.access]
        · rfl
    · rfl

theorem optional {key : String} {inner : Schema α}
    (h : Option.Rel (inner.Unmoved key) (v.get? key) (w.get? key)) :
    (Schema.optional key inner).Unmoved name v w := by
  generalize first : v.get? key = a, first' : w.get? key = b at h
  constructor
  · rw [decode, decode, first, first']
    cases h with
    | none => rfl
    | some one => exact one.outcome.map some
  · intro path k
    obtain _ | ⟨n | _, path⟩ := path
    · rfl
    · rw [Schema.access, Schema.access]
      by_cases here : n = key
      · subst here
        rw [first, first']
        cases h with
        | none => rfl
        | some one => simp only [if_true, Option.bind_some, one.access]
      · rw [if_neg here, if_neg here]
    · rfl

theorem orElse {first : Schema (Option α)} {second : Schema α} (hf : first.Unmoved name v w)
    (hs : first.decode name v = .ok none → second.Unmoved name v w) :
    (Schema.orElse first second).Unmoved name v w := by
  obtain ⟨a, read, read'⟩ | ⟨e, e', read, read', same⟩ := hf.outcome.cases
  · cases a with
    | none =>
      constructor
      · rw [decode, decode, read, read']
        exact (hs read').outcome
      · intro path key
        rw [Schema.access, Schema.access, hf.access, read, read']
        simp only [(hs read').access]
    | some a =>
      constructor
      · rw [decode, decode, read, read']
      · intro path key
        rw [Schema.access, Schema.access, hf.access, read, read']
  · constructor
    · rw [decode, decode, read, read']
      exact .of_bare same
    · intro path key
      rw [Schema.access, Schema.access, hf.access, read, read']

end Unmoved

section Inversion

variable {path : Path} {key : String} {access : Access}

theorem access_ap {β : Type} {f : Schema (α → β)} {x : Schema α}
    (h : (Schema.ap f x).access name v path key = some access) :
    f.access name v path key = some access ∨
      f.access name v path key = none ∧ x.access name v path key = some access := by
  rw [Schema.access] at h
  cases first : f.access name v path key with
  | none => exact .inr ⟨rfl, by rwa [first] at h⟩
  | some _ => exact .inl (by rwa [first] at h)

theorem access_items {item : Schema α} (h : (Schema.items item).access name v path key = some access) :
    ∃ vs i rest found below, v = .array vs ∧ path = .item i :: rest ∧ vs[i]? = some found ∧
      item.access name found rest key = some below ∧ access = below.under (.item i) := by
  cases v with
  | array vs =>
    obtain _ | ⟨_ | i, rest⟩ := path
    · cases h
    · cases h
    · rw [Schema.access] at h
      obtain ⟨found, here, h⟩ := Option.bind_eq_some_iff.1 h
      obtain ⟨below, inside, rfl⟩ := Option.map_eq_some_iff.1 h
      exact ⟨vs, i, rest, found, below, rfl, rfl, here, inside, rfl⟩
  | _ => cases h

theorem access_gaps {item : Schema α} (h : (Schema.gaps item).access name v path key = some access) :
    ∃ vs i rest found below, v = .array vs ∧ path = .item i :: rest ∧ vs[i]? = some found ∧
      unlessNull found = some found ∧ item.access name found rest key = some below ∧
      access = below.under (.item i) := by
  cases v with
  | array vs =>
    obtain _ | ⟨_ | i, rest⟩ := path
    · cases h
    · cases h
    · rw [Schema.access] at h
      obtain ⟨found, shown, h⟩ := Option.bind_eq_some_iff.1 h
      obtain ⟨found, here, shown⟩ := Option.bind_eq_some_iff.1 shown
      obtain rfl := Json.eq_of_unlessNull shown
      obtain ⟨below, inside, rfl⟩ := Option.map_eq_some_iff.1 h
      exact ⟨vs, i, rest, found, below, rfl, rfl, here, shown, inside, rfl⟩
  | _ => cases h

theorem access_member {names : List String} {inner : Schema α}
    (h : (Schema.member names inner).access name v path key = some access) :
    (path = [] ∧ key ∈ tried v names ∧ access = ⟨.required names, inner⟩) ∨
      ∃ k rest found below, path = .member k :: rest ∧ firstPresent v names = some (k, found) ∧
        inner.access k found rest key = some below ∧ access = below.under (.member k) := by
  obtain _ | ⟨k | _, rest⟩ := path
  · rw [Schema.access] at h
    split at h
    · next looked =>
      cases h
      exact .inl ⟨rfl, looked, rfl⟩
    · cases h
  · rw [Schema.access] at h
    obtain ⟨⟨n, found⟩, first, h⟩ := Option.bind_eq_some_iff.1 h
    split at h
    · next same =>
      obtain rfl : n = k := same
      obtain ⟨below, inside, rfl⟩ := Option.map_eq_some_iff.1 h
      exact .inr ⟨n, rest, found, below, rfl, first, inside, rfl⟩
    · cases h
  · cases h

theorem access_optional {n : String} {inner : Schema α}
    (h : (Schema.optional n inner).access name v path key = some access) :
    (path = [] ∧ key = n ∧ access = ⟨.optional, inner⟩) ∨
      ∃ rest found below, path = .member n :: rest ∧ v.get? n = some found ∧
        inner.access n found rest key = some below ∧ access = below.under (.member n) := by
  obtain _ | ⟨k | _, rest⟩ := path
  · rw [Schema.access] at h
    split at h
    · next same =>
      cases h
      exact .inl ⟨rfl, same, rfl⟩
    · cases h
  · rw [Schema.access] at h
    split at h
    · next same =>
      subst same
      obtain ⟨found, here, h⟩ := Option.bind_eq_some_iff.1 h
      obtain ⟨below, inside, rfl⟩ := Option.map_eq_some_iff.1 h
      exact .inr ⟨rest, found, below, rfl, here, inside, rfl⟩
    · cases h
  · cases h

theorem access_orElse {first : Schema (Option α)} {second : Schema α}
    (h : (Schema.orElse first second).access name v path key = some access) :
    (∃ before, first.access name v path key = some before ∧
        access = before.insteadOf second.lastNames) ∨
      first.access name v path key = none ∧ first.decode name v = .ok none ∧
        second.access name v path key = some access := by
  rw [Schema.access] at h
  cases looked : first.access name v path key with
  | some before =>
    rw [looked] at h
    cases h
    exact .inl ⟨before, rfl, rfl⟩
  | none =>
    rw [looked] at h
    cases read : first.decode name v with
    | error _ =>
      rw [read] at h
      cases h
    | ok found =>
      cases found with
      | none => exact .inr ⟨rfl, rfl, by rwa [read] at h⟩
      | some _ =>
        rw [read] at h
        cases h

theorem prefix_of_under {step : Step} {rest place : Path} {names : List String}
    (below : ∀ inner, access.need = .instead inner names → inner <+: rest)
    (h : (access.under step).need = .instead place names) : place <+: step :: rest := by
  obtain ⟨_ | _ | ⟨inner, _⟩, reader⟩ := access <;> cases h
  exact (List.prefix_cons_inj step).2 (below inner rfl)

/-- What is there instead of a member is further out. -/
theorem prefix_of_access {schema : Schema α} {place : Path} {last : List String}
    (h : schema.access name v path key = some access) (instead : access.need = .instead place last) :
    place <+: path := by
  induction schema generalizing name v path access place with
  | const a => cases h
  | ap f x ihf ihx =>
    obtain looked | ⟨-, looked⟩ := access_ap h
    · exact ihf looked instead
    · exact ihx looked instead
  | leaf kind => cases h
  | items item ih =>
    obtain ⟨_, i, rest, _, below, rfl, rfl, -, inside, rfl⟩ := access_items h
    exact prefix_of_under (fun _ => ih inside) instead
  | gaps item ih =>
    obtain ⟨_, i, rest, _, below, rfl, rfl, -, -, inside, rfl⟩ := access_gaps h
    exact prefix_of_under (fun _ => ih inside) instead
  | member names inner ih =>
    obtain ⟨rfl, looked, rfl⟩ | ⟨k, rest, found, below, rfl, -, inside, rfl⟩ := access_member h
    · cases instead
    · exact prefix_of_under (fun _ => ih inside) instead
  | optional n inner ih =>
    obtain ⟨rfl, rfl, rfl⟩ | ⟨rest, found, below, rfl, -, inside, rfl⟩ := access_optional h
    · cases instead
    · exact prefix_of_under (fun _ => ih inside) instead
  | orElse first second ihf ihs =>
    obtain ⟨before, inFirst, rfl⟩ | ⟨-, -, inSecond⟩ := access_orElse h
    · obtain ⟨_ | _ | _, reader⟩ := before
      · cases instead
        exact List.nil_prefix
      · cases instead
      · exact ihf inFirst instead
    · exact ihs inSecond instead
  | textOrObject text object iht iho =>
    cases v with
    | string text => exact iht h instead
    | object members => exact iho h instead
    | _ => cases h

end Inversion

section Edit

variable {schema : Schema α} {path : Path} {key : String} {content : Option Json}

theorem mem_of_tried {names : List String} {n : String} (h : n ∈ tried v names) : n ∈ names := by
  induction names with
  | nil => cases h
  | cons m rest ih =>
    rw [tried] at h
    obtain rfl | later := List.mem_cons.1 h
    · exact List.mem_cons_self
    · split at later
      · cases later
      · exact List.mem_cons_of_mem _ (ih later)

theorem firstPresent_of_tried {names : List String} {n : String} {found : Json}
    (looked : n ∈ tried v names) (here : v.get? n = some found) :
    firstPresent v names = some (n, found) := by
  induction names with
  | nil => cases looked
  | cons m rest ih =>
    rw [tried] at looked
    rw [firstPresent]
    cases first : v.get? m with
    | some other =>
      rw [first] at looked
      obtain rfl := List.mem_singleton.1 looked
      obtain rfl : other = found := Option.some.inj (first.symm.trans here)
      rfl
    | none =>
      rw [first] at looked
      obtain rfl | later := List.mem_cons.1 looked
      · rw [first] at here
        cases here
      · exact ih later

theorem idle_member {k : String} {found : Json} (here : v.get? k = some found)
    (h : v.Idle (.member k :: path) key content) : found.Idle path key content := by
  intro o ho
  exact h o (by rw [Json.find?, here]; exact ho)

theorem idle_item {i : Nat} {vs : List Json} {found : Json} (here : vs[i]? = some found)
    (h : (Json.array vs).Idle (.item i :: path) key content) : found.Idle path key content := by
  intro o ho
  exact h o (by rw [Json.find?, here]; exact ho)

theorem outside_append {first second : List (List Turn)} :
    Json.Outside (first ++ second) path ↔ Json.Outside first path ∧ Json.Outside second path :=
  List.forall_mem_append

theorem outside_map {places : List (List Turn)} {step : Step} {turn : Turn}
    (h : Json.Outside (places.map (turn :: ·)) (step :: path)) (same : step.turn = turn) :
    Json.Outside places path := by
  subst same
  exact fun place hp pre => h _ (List.mem_map_of_mem hp) ((List.prefix_cons_inj _).2 pre)

theorem outside_flatMap {names : List String} {k : String} {places : List (List Turn)}
    (named : k ∈ names)
    (h : Json.Outside (names.flatMap fun name => places.map (.member name :: ·))
      (.member k :: path)) : Json.Outside places path :=
  outside_map (fun _ hp => h _ (List.mem_flatMap.2 ⟨k, named, hp⟩)) rfl

/-- What is found under a name that is looked for, if the edit is idle there and leaves the reading
of what is found as it was. -/
theorem get?_edit_unmoved {inner : Schema α} {n : String}
    (top : path = [] → key = n → v.Idle [] key content)
    (below : ∀ rest found, path = .member n :: rest → v.get? n = some found →
      inner.Unmoved n found (found.edit rest key content)) :
    Option.Rel (inner.Unmoved n) (v.get? n) ((v.edit path key content).get? n) := by
  have refl := rel_refl (inner.Unmoved n) (.refl inner n) (v.get? n)
  obtain _ | ⟨k | i, rest⟩ := path
  · by_cases here : key = n
    · rw [top rfl here v rfl]
      exact refl
    · cases v with
      | object members =>
        rw [Json.get?_edit_nil, if_neg here]
        exact refl
      | _ => exact refl
  · rw [Json.get?_edit_member]
    split
    · next same =>
      subst same
      cases here : v.get? k with
      | none => exact .none
      | some found => exact .some (below rest found rfl here)
    · exact refl
  · rw [Json.get?_edit_item]
    exact refl

/-- A member that is not looked for, or is found as before, makes no difference. -/
theorem unmoved_edit (outside : Json.Outside schema.kept path)
    (unseen : (schema.access name v path key).isSome → v.Idle path key content) :
    schema.Unmoved name v (v.edit path key content) := by
  induction schema generalizing name v path with
  | const a => exact ⟨rfl, fun _ _ => rfl⟩
  | ap f x ihf ihx =>
    obtain ⟨outsidef, outsidex⟩ := outside_append.1 outside
    rw [Schema.access, Option.isSome_or, Bool.or_eq_true] at unseen
    exact .ap (ihf outsidef (unseen ∘ .inl)) (ihx outsidex (unseen ∘ .inr))
  | leaf kind =>
    have scalar : kind.isWhole = false := by
      by_contra whole
      exact outside [] (by simp [kept, whole]) List.nil_prefix
    exact ⟨kind.read_oneKind name scalar (Json.oneKind_edit ..), fun _ _ => rfl⟩
  | items item ih =>
    obtain ⟨vs, i, path, rfl, rfl⟩ | ⟨old, new, rfl, changed⟩ | same :=
      v.edit_cases path key content
    · refine .items (forall₂_modify_self (Unmoved.refl item name) fun found here => ?_)
      refine ih (outside_map outside rfl) fun looked => ?_
      refine idle_item here (unseen ?_)
      rw [Schema.access, here]
      simpa using looked
    · rw [changed]
      exact ⟨rfl, fun _ _ => rfl⟩
    · rw [same]
      exact .refl ..
  | gaps item ih =>
    obtain ⟨vs, i, path, rfl, rfl⟩ | ⟨old, new, rfl, changed⟩ | same :=
      v.edit_cases path key content
    · refine .gaps (forall₂_modify_self (fun v => rel_refl (item.Unmoved name) (.refl item name) _)
        fun found here => ?_)
      rw [Json.unlessNull_edit]
      cases shown : unlessNull found with
      | none => exact .none
      | some shownItem =>
        obtain rfl := Json.eq_of_unlessNull shown
        refine .some (ih (outside_map outside rfl) fun looked => ?_)
        refine idle_item here (unseen ?_)
        rw [Schema.access, here, Option.bind_some, shown]
        simpa using looked
    · rw [changed]
      exact ⟨rfl, fun _ _ => rfl⟩
    · rw [same]
      exact .refl ..
  | member names inner ih =>
    refine .member fun n hn => get?_edit_unmoved ?_ ?_
    · rintro rfl rfl
      exact unseen (by rw [Schema.access, if_pos hn]; rfl)
    · rintro rest found rfl here
      refine ih (outside_flatMap (mem_of_tried hn) outside) fun looked =>
        idle_member here (unseen ?_)
      rw [Schema.access, firstPresent_of_tried hn here]
      simpa using looked
  | optional n inner ih =>
    refine .optional (get?_edit_unmoved ?_ ?_)
    · rintro rfl rfl
      exact unseen (by rw [Schema.access, if_pos rfl]; rfl)
    · rintro rest found rfl here
      refine ih (outside_map outside rfl) fun looked => idle_member here (unseen ?_)
      rw [Schema.access, if_pos rfl, here]
      simpa using looked
  | orElse first second ihf ihs =>
    obtain ⟨outsidef, outsides⟩ := outside_append.1 outside
    rw [Schema.access, Option.isSome_or, Bool.or_eq_true, Option.isSome_map] at unseen
    refine .orElse (ihf outsidef (unseen ∘ .inl)) fun read => ihs outsides fun looked => ?_
    rw [read] at unseen
    exact unseen (.inr looked)
  | textOrObject text object iht iho =>
    -- An edit keeps the kind of a value, so it is the same one of the two that reads it.
    have kind := Json.oneKind_edit v path key content
    generalize changed : v.edit path key content = w at kind
    cases kind with
    | same => exact .refl ..
    | arrays => exact ⟨rfl, fun _ _ => rfl⟩
    | objects old new =>
      have same : object.Unmoved name (.object old) ((Json.object old).edit path key content) :=
        iho (outside_append.1 outside).2 unseen
      rw [changed] at same
      exact ⟨same.outcome, same.access⟩

end Edit

end Schema

end Tendermint
