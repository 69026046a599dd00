import Tendermint.Proofs.Json.Replace
import Tendermint.Proofs.Schema.Access

/-!
# Tendermint.Proofs.Schema.Reader

Which parts of a schema read what stands at a path of a value. If each of them reads a replacement
as it reads what stood there, so does the whole.

* `Schema.readers`: the parts of a schema that read the value at a path.
* `Schema.Keeps`: what is read of one value is read of another.
* `Schema.keeps_replace`: a replacement that every reader keeps makes no difference.
-/

namespace Tendermint

open Json (Path Step unlessNull)

/-- A schema, whatever it reads. -/
structure Reader where
  {type : Type}
  schema : Schema type

namespace Schema

/-- A leaf that keeps a value whole. -/
def isWhole {α : Type} : Schema α → Bool
  | .leaf kind => kind.isWhole
  | _ => false

/-- The parts of a schema that read the value at a path. A leaf reads all of its value. -/
def readers {α : Type} : Schema α → String → Json → Path → List Reader
  | schema, _, _, [] => [⟨schema⟩]
  | .const _, _, _, _ :: _ => []
  | .ap f x, name, value, step :: path =>
    readers f name value (step :: path) ++ readers x name value (step :: path)
  | .leaf kind, _, _, _ :: _ => [⟨.leaf kind⟩]
  | .items item, name, .array values, .item i :: path =>
    (values[i]?).elim [] fun v => readers item name v path
  | .items _, _, _, _ :: _ => []
  | .gaps item, name, .array values, .item i :: path =>
    ((values[i]?).bind unlessNull).elim [] fun v => readers item name v path
  | .gaps _, _, _, _ :: _ => []
  | .member names inner, _, value, .member key :: path =>
    (firstPresent value names).elim [] fun found =>
      if found.1 = key then readers inner key found.2 path else []
  | .member _ _, _, _, .item _ :: _ => []
  | .optional name inner, _, value, .member key :: path =>
    if key = name then (value.get? key).elim [] fun v => readers inner key v path else []
  | .optional _ _, _, _, .item _ :: _ => []
  | .orElse first second, name, value, step :: path =>
    readers first name value (step :: path) ++
      match decode first name value with
      | .ok none => readers second name value (step :: path)
      | _ => []
  | .textOrObject text object, name, value, step :: path =>
    match value with
    | .string _ => readers text name value (step :: path)
    | .object _ => readers object name value (step :: path)
    | _ => []

variable {α β : Type} {name : String} {v w : Json}

/-- What the schema reads of the first value it reads of the second. -/
def Keeps (schema : Schema α) (name : String) (v w : Json) : Prop :=
  ∀ a, schema.decode name v = .ok a → schema.decode name w = .ok a

namespace Keeps

theorem ap {f : Schema (α → β)} {x : Schema α} (hf : f.Keeps name v w) (hx : x.Keeps name v w) :
    (Schema.ap f x).Keeps name v w := by
  intro b read
  obtain ⟨g, readf, a, readx, same⟩ := decode_seq_eq_ok.1 read
  exact decode_seq_eq_ok.2 ⟨g, hf g readf, a, hx a readx, same⟩

theorem map {f : α → β} {x : Schema α} (hx : x.Keeps name v w) : (f <$> x).Keeps name v w :=
  .ap (fun _ read => read) hx

theorem seqRight {x : Schema α} {y : Schema β} (hx : x.Keeps name v w) (hy : y.Keeps name v w) :
    (x *> y).Keeps name v w :=
  .ap (.map hx) hy

theorem eachItem {read : Json → Except DecodeError α} {change : Json → Json} {vs : List Json}
    {i : Nat} {l : List α} (whole : Schema.eachItem read vs = .ok l)
    (h : ∀ found, vs[i]? = some found → ∀ a, read found = .ok a → read (change found) = .ok a) :
    Schema.eachItem read (vs.modify i change) = .ok l := by
  have kept : List.Forall₂ (fun v a => read v = .ok a) (vs.modify i change) (l.modify i id) :=
    forall₂_modify (eachItem_eq_ok.1 whole).flip (fun _ _ read => read)
      fun v a here read => h v here a read
  rw [List.modify_id] at kept
  exact eachItem_eq_ok.2 kept.flip

theorem member {names : List String} {inner : Schema α}
    (each : ∀ n ∈ tried v names, Option.Rel (inner.Keeps n) (v.get? n) (w.get? n)) :
    (Schema.member names inner).Keeps name v w := by
  intro a read
  have found := (Unmoved.tried_firstPresent each).2
  rw [decode] at read ⊢
  generalize firstPresent v names = first, firstPresent w names = first' at found read
  cases found with
  | none => exact read
  | @some x y one =>
    obtain ⟨n, v⟩ := x
    obtain ⟨_, w⟩ := y
    obtain ⟨rfl, keeps⟩ := one
    exact keeps a read

theorem optional {key : String} {inner : Schema α}
    (h : Option.Rel (inner.Keeps key) (v.get? key) (w.get? key)) :
    (Schema.optional key inner).Keeps name v w := by
  intro a read
  rw [decode] at read ⊢
  generalize v.get? key = found, w.get? key = found' at h read
  cases h with
  | none => exact read
  | @some v w keeps =>
    dsimp only at read ⊢
    cases first : inner.decode key v with
    | error e =>
      rw [first] at read
      cases read
    | ok b =>
      rw [first] at read
      rw [keeps b first]
      exact read

theorem orElse {first : Schema (Option α)} {second : Schema α} (hf : first.Keeps name v w)
    (hs : first.decode name v = .ok none → second.Keeps name v w) :
    (Schema.orElse first second).Keeps name v w := by
  intro a read
  rw [decode_orElse] at read ⊢
  cases found : first.decode name v with
  | error e =>
    rw [found] at read
    cases read
  | ok o =>
    rw [found] at read
    rw [hf o found]
    cases o with
    | some b => exact read
    | none => exact hs found a read

theorem member_of_get? {names : List String} {inner : Schema α}
    (same : ∀ n ∈ names, w.get? n = v.get? n) : (Schema.member names inner).Keeps name v w := by
  refine .member fun n hn => ?_
  rw [same n (mem_of_tried hn)]
  exact rel_refl _ (fun _ _ read => read) _

theorem optional_of_get? {key : String} {inner : Schema α} (same : w.get? key = v.get? key) :
    (Schema.optional key inner).Keeps name v w := by
  refine .optional ?_
  rw [same]
  exact rel_refl _ (fun _ _ read => read) _

theorem required {key : String} {inner : Schema α} {part newPart : Json}
    (before : v.get? key = some part) (after : w.get? key = some newPart)
    (keeps : inner.Keeps key part newPart) : (Schema.required key inner).Keeps name v w := by
  intro a read
  rw [decode_required, before] at read
  rw [decode_required, after]
  exact keeps a read

/-- A member with one of two names is read alike under either, if the name makes no difference. -/
theorem member_pair {one other : String} {inner : Schema α}
    (nameless : ∀ n m part, inner.decode n part = inner.decode m part)
    (same : (w.get? one).or (w.get? other) = (v.get? one).or (v.get? other)) :
    (Schema.member [one, other] inner).Keeps name v w := by
  have decoded (u : Json) (a : α) : (Schema.member [one, other] inner).decode name u = .ok a ↔
      ∃ part, (u.get? one).or (u.get? other) = some part ∧ inner.decode one part = .ok a := by
    simp only [decode, firstPresent]
    cases u.get? one with
    | some part => simp
    | none => cases u.get? other <;> simp [nameless other one]
  intro a read
  rw [decoded] at read ⊢
  rwa [same]

end Keeps

section Replace

variable {path : Path} {old new : Json}

/-- What is found under a name, before and after the value at a path is replaced. -/
theorem get?_replace_keeps {inner : Schema α} {n : String} {step : Step}
    (found : v.find? (step :: path) = some old) (shown : new ≠ .null)
    (below : ∀ part, step = .member n → v.get? n = some part → part.find? path = some old →
      inner.Keeps n part (part.replace path new)) :
    Option.Rel (inner.Keeps n) (v.get? n) ((v.replace (step :: path) new).get? n) := by
  have refl := rel_refl (inner.Keeps n) (fun _ _ read => read) (v.get? n)
  cases step with
  | member k =>
    obtain ⟨part, present, found⟩ := Option.bind_eq_some_iff.1 found
    rw [Json.get?_replace_member present (Json.replace_ne_null found shown)]
    split
    · next same =>
      subst same
      rw [present]
      exact .some (below part rfl present found)
    · exact refl
  | item i =>
    obtain ⟨items, part, rfl, -, -⟩ := Json.array_of_find?_item found
    exact refl

/-- Each part of a schema that reads the value at a path keeps a replacement. -/
def ReadersKeep (schema : Schema α) (name : String) (v : Json) (path : Path) (old new : Json) :
    Prop :=
  ∀ reader ∈ schema.readers name v path,
    reader.schema.isWhole = false ∧ ∀ n, reader.schema.Keeps n old new

/-- The value itself is replaced, or something in it. -/
theorem keeps_replace_of_below {schema : Schema α} (found : v.find? path = some old)
    (each : schema.ReadersKeep name v path old new)
    (below : ∀ step rest, v.find? (step :: rest) = some old →
      schema.ReadersKeep name v (step :: rest) old new →
      schema.Keeps name v (v.replace (step :: rest) new)) :
    schema.Keeps name v (v.replace path new) := by
  cases path with
  | nil =>
    obtain rfl : v = old := Option.some.inj found
    rw [Json.replace]
    refine (each ⟨schema⟩ ?_).2 name
    cases schema <;> exact List.mem_singleton_self _
  | cons step rest => exact below step rest found each

/-- A schema reads a replacement as it reads what stood there, if each of its parts that reads the
place does. -/
theorem keeps_replace_below {schema : Schema α} {step : Step} (solid : old ≠ .null)
    (shown : new ≠ .null)
    (found : v.find? (step :: path) = some old)
    (each : schema.ReadersKeep name v (step :: path) old new) :
    schema.Keeps name v (v.replace (step :: path) new) := by
  induction schema generalizing name v step path with
  | const a => exact fun _ read => read
  | ap f x ihf ihx =>
    obtain ⟨readersf, readersx⟩ := List.forall_mem_append.1 each
    exact .ap (ihf found readersf) (ihx found readersx)
  | leaf kind =>
    have scalar := (each _ (List.mem_singleton_self _)).1
    have same := kind.read_oneKind name scalar (Json.oneKind_replace new found)
    exact fun a read => same.eq_ok.2 read
  | items item ih =>
    cases step with
    | member k =>
      obtain ⟨members, rfl⟩ := Json.object_of_find?_member found
      rintro l ⟨⟩
    | item i =>
      obtain ⟨vs, part, rfl, present, found⟩ := Json.array_of_find?_item found
      intro l read
      refine Keeps.eachItem read fun v here a readItem => ?_
      obtain rfl : part = v := Option.some.inj (present.symm.trans here)
      rw [ReadersKeep, readers, present] at each
      exact keeps_replace_of_below found each (fun step rest => ih) a readItem
  | gaps item ih =>
    cases step with
    | member k =>
      obtain ⟨members, rfl⟩ := Json.object_of_find?_member found
      rintro l ⟨⟩
    | item i =>
      obtain ⟨vs, part, rfl, present, found⟩ := Json.array_of_find?_item found
      intro l read
      refine Keeps.eachItem read fun v here o readItem => ?_
      obtain rfl : part = v := Option.some.inj (present.symm.trans here)
      have item' := Json.unlessNull_of_ne (Json.ne_null_of_find? found solid)
      rw [ReadersKeep, readers, present, Option.bind_some, item'] at each
      rw [gapOr_of_unlessNull item'] at readItem
      rw [gapOr_of_unlessNull (Json.unlessNull_of_ne (Json.replace_ne_null found shown))]
      cases readPart : item.decode name part with
      | error e =>
        rw [readPart] at readItem
        cases readItem
      | ok b =>
        rw [keeps_replace_of_below found each (fun step rest => ih) b readPart, ← readPart]
        exact readItem
  | member names inner ih =>
    refine .member fun n hn => get?_replace_keeps found shown fun part here present inside => ?_
    subst here
    have readersOfPart : inner.ReadersKeep n part path old new := by
      rw [ReadersKeep, readers, firstPresent_of_tried hn present] at each
      simpa [ReadersKeep] using each
    exact keeps_replace_of_below inside readersOfPart fun step rest => ih
  | optional n inner ih =>
    refine .optional (get?_replace_keeps found shown fun part here present inside => ?_)
    subst here
    rw [ReadersKeep, readers, if_pos rfl, present] at each
    exact keeps_replace_of_below inside each fun step rest => ih
  | orElse first second ihf ihs =>
    obtain ⟨readersf, readerss⟩ := List.forall_mem_append.1 each
    refine .orElse (ihf found readersf) fun read => ihs found ?_
    rw [read] at readerss
    exact readerss
  | textOrObject text object iht iho =>
    cases step with
    | member k =>
      obtain ⟨members, rfl⟩ := Json.object_of_find?_member found
      exact iho found each
    | item i =>
      obtain ⟨vs, part, rfl, present, found⟩ := Json.array_of_find?_item found
      rintro l ⟨⟩

theorem keeps_replace {schema : Schema α} (solid : old ≠ .null) (shown : new ≠ .null)
    (found : v.find? path = some old)
    (each : schema.ReadersKeep name v path old new) :
    schema.Keeps name v (v.replace path new) :=
  keeps_replace_of_below found each fun _ _ => keeps_replace_below solid shown

end Replace

end Schema

end Tendermint
