import Tendermint.Proofs.Schema.Access

/-!
# Tendermint.Proofs.Schema.Demand

What a schema asks of a value, whatever the value is: at which places which members are looked
for, and whether their absence is an error. All of it can be computed from the schema.

* `Schema.demands`, `Schema.demand_of_access`: the first reading of a member is one of the demands.
* `Schema.loose`: a member that no reading needs.
-/

namespace Tendermint

open Json (Path Step)

/-- A member that is looked for, and how, in the object at a place. -/
structure Demand where
  place : List Turn
  key : String
  need : Need Turn
  deriving DecidableEq, Repr

namespace Demand

def under (turn : Turn) (demand : Demand) : Demand :=
  { demand with place := turn :: demand.place, need := demand.need.under turn }

def insteadOf (names : List String) (demand : Demand) : Demand :=
  { demand with need := demand.need.insteadOf names }

end Demand

namespace Access

variable (access : Access) (path : Path) (key : String)

/-- A reading of a member of the object at the path, as a demand. -/
def demand : Demand := ⟨path.map Step.turn, key, access.need.map Step.turn⟩

theorem demand_under (step : Step) :
    (access.under step).demand (step :: path) key = (access.demand path key).under step.turn := by
  obtain ⟨_ | _ | _, reader⟩ := access <;> rfl

theorem demand_insteadOf (names : List String) :
    (access.insteadOf names).demand path key = (access.demand path key).insteadOf names := by
  obtain ⟨_ | _ | _, reader⟩ := access <;> rfl

end Access

namespace Schema

/-- Members that are looked for in every value. -/
def sure {α : Type} : Schema α → List String
  | .ap f x => sure f ++ sure x
  | .member (name :: _) _ => [name]
  | .optional name _ => [name]
  | _ => []

/-- How members are looked for, where this may be their first reading. -/
def demands {α : Type} : Schema α → List Demand
  | .const _ => []
  | .ap f x =>
    demands f ++ (demands x).filter fun demand => ¬ (demand.place = [] ∧ demand.key ∈ sure f)
  | .leaf _ => []
  | .items item => (demands item).map (.under .item)
  | .gaps item => (demands item).map (.under .item)
  | .member names inner =>
    names.map (fun name => ⟨[], name, .required names⟩) ++
      names.flatMap fun name => (demands inner).map (.under (.member name))
  | .optional name inner => ⟨[], name, .optional⟩ :: (demands inner).map (.under (.member name))
  | .orElse first second => (demands first).map (.insteadOf second.lastNames) ++ demands second
  | .textOrObject text object => demands text ++ demands object

/-- The member is looked for nowhere. -/
def deaf {α : Type} (schema : Schema α) (place : List Turn) (key : String) : Bool :=
  schema.demands.all fun demand => ¬ (demand.place = place ∧ demand.key = key)

/-- No reading of the member needs it. What stands under one of several names, or is one of several
ways to read a value, counts as needed. -/
def loose {α : Type} : Schema α → List Turn → String → Bool
  | .const _, _, _ => true
  | .ap f x, place, key => loose f place key && loose x place key
  | .leaf _, _, _ => true
  | .items item, .item :: place, key => loose item place key
  | .items _, _, _ => true
  | .gaps item, .item :: place, key => loose item place key
  | .gaps _, _, _ => true
  | .member [name] _, [], key => key ≠ name
  | .member [name] inner, .member n :: place, key => n ≠ name || loose inner place key
  | .member [_] _, .item :: _, _ => true
  | .member names inner, place, key => deaf (.member names inner) place key
  | .optional _ _, [], _ => true
  | .optional name inner, .member n :: place, key => n ≠ name || loose inner place key
  | .optional _ _, .item :: _, _ => true
  | .orElse first second, place, key => deaf (.orElse first second) place key
  | .textOrObject text object, place, key => deaf (.textOrObject text object) place key

/-- No member is looked for where a value is kept whole. -/
def Apart {α : Type} (schema : Schema α) : Prop :=
  ∀ demand ∈ schema.demands, ∀ place ∈ schema.kept, ¬ place <+: demand.place

section Static

variable {α : Type} {schema : Schema α} {name key : String} {v : Json} {path : Path}

theorem access_of_sure (h : key ∈ schema.sure) : (schema.access name v [] key).isSome := by
  induction schema generalizing name v with
  | ap f x ihf ihx =>
    rw [access, Option.isSome_or, Bool.or_eq_true]
    exact (List.mem_append.1 h).imp ihf ihx
  | member names inner =>
    cases names with
    | nil => cases h
    | cons n rest =>
      obtain rfl := List.mem_singleton.1 h
      rw [access, tried, if_pos List.mem_cons_self]
      rfl
  | optional n inner =>
    obtain rfl := List.mem_singleton.1 h
    rw [access, if_pos rfl]
    rfl
  | _ => cases h

/-- The first reading of a member is one of the demands of the schema. -/
theorem demand_of_access {access : Access} (h : schema.access name v path key = some access) :
    access.demand path key ∈ schema.demands := by
  induction schema generalizing name v path access with
  | const a => cases h
  | ap f x ihf ihx =>
    obtain looked | ⟨unlooked, looked⟩ := access_ap h
    · exact List.mem_append_left _ (ihf looked)
    · refine List.mem_append_right _ (List.mem_filter.2 ⟨ihx looked, decide_eq_true ?_⟩)
      rintro ⟨top, known⟩
      obtain rfl := List.map_eq_nil_iff.1 top
      have again : (f.access name v [] key).isSome = true := access_of_sure known
      rw [unlooked] at again
      cases again
  | leaf kind => cases h
  | items item ih =>
    obtain ⟨_, i, rest, _, below, rfl, rfl, -, inside, rfl⟩ := access_items h
    exact List.mem_map.2 ⟨_, ih inside, (below.demand_under rest key (.item i)).symm⟩
  | gaps item ih =>
    obtain ⟨_, i, rest, _, below, rfl, rfl, -, -, inside, rfl⟩ := access_gaps h
    exact List.mem_map.2 ⟨_, ih inside, (below.demand_under rest key (.item i)).symm⟩
  | member names inner ih =>
    obtain ⟨rfl, looked, rfl⟩ | ⟨k, rest, found, below, rfl, first, inside, rfl⟩ := access_member h
    · exact List.mem_append_left _ (List.mem_map.2 ⟨key, mem_of_tried looked, rfl⟩)
    · exact List.mem_append_right _ (List.mem_flatMap.2 ⟨k, (mem_of_firstPresent first).1,
        List.mem_map.2 ⟨_, ih inside, (below.demand_under rest key (.member k)).symm⟩⟩)
  | optional n inner ih =>
    obtain ⟨rfl, rfl, rfl⟩ | ⟨rest, found, below, rfl, -, inside, rfl⟩ := access_optional h
    · exact List.mem_cons_self
    · exact List.mem_cons_of_mem _
        (List.mem_map.2 ⟨_, ih inside, (below.demand_under rest key (.member n)).symm⟩)
  | orElse first second ihf ihs =>
    obtain ⟨before, inFirst, rfl⟩ | ⟨-, -, inSecond⟩ := access_orElse h
    · exact List.mem_append_left _
        (List.mem_map.2 ⟨_, ihf inFirst, (before.demand_insteadOf path key _).symm⟩)
    · exact List.mem_append_right _ (ihs inSecond)
  | textOrObject text object iht iho =>
    cases v with
    | string text => exact List.mem_append_left _ (iht h)
    | object members => exact List.mem_append_right _ (iho h)
    | _ => cases h

/-- A member that is looked for nowhere has no reading. -/
theorem access_eq_none_of_deaf (h : schema.deaf (path.map Step.turn) key = true) :
    schema.access name v path key = none := by
  cases looked : schema.access name v path key with
  | none => rfl
  | some access =>
    have other := List.all_eq_true.1 h _ (demand_of_access looked)
    exact absurd ⟨rfl, rfl⟩ (of_decide_eq_true other)

theorem outside_of_access {access : Access} (apart : schema.Apart)
    (h : schema.access name v path key = some access) : Json.Outside schema.kept path :=
  apart _ (demand_of_access h)

end Static

end Schema

end Tendermint
