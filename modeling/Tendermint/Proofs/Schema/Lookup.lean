import Tendermint.Proofs.Schema.Decode

/-!
# Tendermint.Proofs.Schema.Lookup

Where a schema looks for members. A reading is run again with an account of every value in which
a member was looked for; the account changes nothing of what is read. Whatever is accepted, each
of these values stands in the answer where the account says, and it is an object unless nothing
but optional members is looked for there.

* `Schema.decodeNoting`, `Schema.decodeNoting_fst`: the reading with its account.
* `Schema.lenientPlaces`: where a value that is no object goes unnoticed.
* `Schema.noted_of_decode`: what holds of every lookup.
-/

namespace Tendermint

/-- One turn of the way into an answer: a member, or the items of a list. -/
inductive Turn where
  | member (name : String)
  | item
  deriving DecidableEq, Repr

namespace Json

/-- An object, whatever its members are. -/
def isObject : Json → Bool
  | .object _ => true
  | _ => false

/-- A value is found at a place in another one. -/
def At : List Turn → Json → Json → Prop
  | [], value, found => found = value
  | .member name :: rest, value, found => ∃ v, value.get? name = some v ∧ At rest v found
  | .item :: rest, value, found => ∃ items, value = .array items ∧ ∃ v ∈ items, At rest v found

theorem isObject_of_get? {value found : Json} {name : String} (h : value.get? name = some found) :
    value.isObject = true := by
  cases value with
  | object members => rfl
  | _ => cases h

end Json

/-- A value in which a member is looked for, and the place where it stands. -/
structure Lookup where
  place : List Turn
  value : Json
  deriving DecidableEq, Repr

/-- The same lookup, seen from one turn further out. -/
def Lookup.under (turn : Turn) (lookup : Lookup) : Lookup :=
  { lookup with place := turn :: lookup.place }

namespace Schema

open Json (At)

/-- What the parts of a list come to, and all their lookups. -/
def gather {α : Type} (turn : Turn) (read : List (α × List Lookup)) : List α × List Lookup :=
  (read.map Prod.fst, (read.flatMap Prod.snd).map (Lookup.under turn))

/-- A gap looks for nothing. -/
def fillGap {α : Type} : Option (α × List Lookup) → Option α × List Lookup
  | none => (none, [])
  | some (a, lookups) => (some a, lookups)

/-- Reads like `Schema.decode` and notes each value in which a member is looked for. -/
def decodeNoting {α : Type} : Schema α → String → Json → Except DecodeError (α × List Lookup)
  | .const a, _, _ => .ok (a, [])
  | .ap f x, name, value =>
    match decodeNoting f name value with
    | .error e => .error e
    | .ok (g, before) =>
      match decodeNoting x name value with
      | .error e => .error e
      | .ok (a, after) => .ok (g a, before ++ after)
  | .leaf kind, name, value => (kind.read name value).map (·, [])
  | .items item, name, value =>
    match value with
    | .array values => (eachItem (decodeNoting item name) values).map (gather .item)
    | other => .error (.invalidField name ("expected array, got " ++ other.compact))
  | .gaps item, name, value =>
    match value with
    | .array values =>
      (eachItem (fun v => (gapOr (decodeNoting item name) v).map fillGap) values).map (gather .item)
    | _ => .error (.invalidField name "expected array")
  | .member names inner, _, value =>
    match firstPresent value names with
    | none => .error (.missingField (String.intercalate " | " names))
    | some (found, v) =>
      (decodeNoting inner found v).map fun (a, inside) =>
        (a, ⟨[], value⟩ :: inside.map (Lookup.under (.member found)))
  | .optional name inner, _, value =>
    match value.get? name with
    | none => .ok (none, [⟨[], value⟩])
    | some v =>
      (decodeNoting inner name v).map fun (a, inside) =>
        (some a, ⟨[], value⟩ :: inside.map (Lookup.under (.member name)))
  | .orElse first second, name, value =>
    match decodeNoting first name value with
    | .error e => .error e
    | .ok (some a, before) => .ok (a, before)
    | .ok (none, before) =>
      (decodeNoting second name value).map fun (a, after) => (a, before ++ after)
  | .textOrObject text object, name, value =>
    match value with
    | .string _ => decodeNoting text name value
    | .object _ => decodeNoting object name value
    | other => .error (.invalidField name ("expected string or object, got " ++ other.compact))

/-- Where members are looked for that may all be absent. -/
def optionalPlaces {α : Type} : Schema α → List (List Turn)
  | .const _ => []
  | .ap f x => optionalPlaces f ++ optionalPlaces x
  | .leaf _ => []
  | .items item => (optionalPlaces item).map (.item :: ·)
  | .gaps item => (optionalPlaces item).map (.item :: ·)
  | .member names inner =>
    names.flatMap fun name => (optionalPlaces inner).map (.member name :: ·)
  | .optional name inner => [] :: (optionalPlaces inner).map (.member name :: ·)
  | .orElse first second => optionalPlaces first ++ optionalPlaces second
  | .textOrObject text object => optionalPlaces text ++ optionalPlaces object

/-- Where some member has to be present. -/
def surePlaces {α : Type} : Schema α → List (List Turn)
  | .const _ => []
  | .ap f x => surePlaces f ++ surePlaces x
  | .leaf _ => []
  | .items item => (surePlaces item).map (.item :: ·)
  | .gaps _ => []
  | .member [name] inner => [] :: (surePlaces inner).map (.member name :: ·)
  | .member _ _ => [[]]
  | .optional name inner => (surePlaces inner).map (.member name :: ·)
  | .orElse first _ => surePlaces first
  | .textOrObject _ _ => []

/-- Where only members are looked for that may all be absent. -/
def lenientPlaces {α : Type} (schema : Schema α) : List (List Turn) :=
  (optionalPlaces schema).filter (· ∉ surePlaces schema)

attribute [grind =] decodeNoting optionalPlaces surePlaces

section Except

variable {α β ε : Type}

theorem map_eq_ok {f : α → β} {x : Except ε α} {b : β} :
    x.map f = .ok b ↔ ∃ a, x = .ok a ∧ f a = b := by
  cases x with
  | error e => simp [Except.map]
  | ok a => simp [Except.map]

theorem map_map {γ : Type} (f : α → β) (g : β → γ) (x : Except ε α) :
    (x.map f).map g = x.map (g ∘ f) := by
  cases x <;> rfl

end Except

variable {α β : Type} {name : String} {value : Json} {lookups : List Lookup}

/-! ## The account changes nothing -/

theorem eachItem_map_of {f : Json → Except DecodeError α} {g : Json → Except DecodeError β}
    {p : α → β} (h : ∀ v, (f v).map p = g v) (values : List Json) :
    (eachItem f values).map (List.map p) = eachItem g values := by
  induction values with
  | nil => rfl
  | cons v rest ih =>
    rw [eachItem, eachItem, ← h v, ← ih]
    cases f v with
    | error e => rfl
    | ok a => cases eachItem f rest <;> rfl

theorem decodeNoting_fst (schema : Schema α) (name : String) (value : Json) :
    (schema.decodeNoting name value).map Prod.fst = schema.decode name value := by
  induction schema generalizing name value with
  | const a => rfl
  | ap f x ihf ihx =>
    rw [decodeNoting, decode, ← ihf, ← ihx]
    cases f.decodeNoting name value with
    | error e => rfl
    | ok read => cases x.decodeNoting name value <;> rfl
  | leaf kind =>
    rw [decodeNoting, decode, map_map]
    cases kind.read name value <;> rfl
  | items item ih =>
    cases value with
    | array values =>
      rw [decodeNoting, decode, map_map, ← eachItem_map_of (ih name) values]
      rfl
    | _ => rfl
  | gaps item ih =>
    cases value with
    | array values =>
      have each (v : Json) :
          ((gapOr (item.decodeNoting name) v).map fillGap).map Prod.fst =
            gapOr (item.decode name) v := by
        cases v with
        | null => rfl
        | _ =>
          simp only [gapOr, ← ih]
          cases item.decodeNoting name _ <;> rfl
      rw [decodeNoting, decode, map_map, ← eachItem_map_of each values]
      rfl
    | _ => rfl
  | member names inner ih =>
    rw [decodeNoting, decode]
    cases firstPresent value names with
    | none => rfl
    | some found =>
      simp only [map_map, ← ih]
      rfl
  | optional field inner ih =>
    rw [decodeNoting, decode]
    cases value.get? field with
    | none => rfl
    | some found =>
      simp only [map_map, ← ih]
      rfl
  | orElse first second ihf ihs =>
    rw [decodeNoting, decode, ← ihf, ← ihs]
    obtain e | ⟨a | _, before⟩ := first.decodeNoting name value
    · rfl
    · exact (map_map ..).trans rfl
    · rfl
  | textOrObject text object iht iho =>
    cases value with
    | string s => exact iht name _
    | object members => exact iho name _
    | _ => rfl

/-! ## Where members are looked for -/

theorem exists_of_eachItem {read : Json → Except DecodeError α} {values : List Json} {l : List α}
    (h : eachItem read values = .ok l) {a : α} (ha : a ∈ l) : ∃ v ∈ values, read v = .ok a := by
  have each := eachItem_eq_ok.1 h
  obtain ⟨i, hi, rfl⟩ := List.getElem_of_mem ha
  have inside : i < values.length := each.length_eq ▸ hi
  exact ⟨values[i], List.getElem_mem inside, each.get hi inside⟩

theorem ok_of_eachItem {read : Json → Except DecodeError α} {values : List Json} {l : List α}
    (h : eachItem read values = .ok l) {v : Json} (hv : v ∈ values) : ∃ a, read v = .ok a := by
  have each := eachItem_eq_ok.1 h
  obtain ⟨i, hi, rfl⟩ := List.getElem_of_mem hv
  have inside : i < l.length := each.length_eq.symm ▸ hi
  exact ⟨l[i], each.get inside hi⟩

theorem of_gapOr {read : Json → Except DecodeError α} {a : α}
    (h : gapOr read value = .ok (some a)) : read value = .ok a := by
  cases value with
  | null => cases h
  | _ =>
    obtain ⟨b, found, eq⟩ := map_eq_ok.1 h
    cases eq
    exact found

theorem mem_of_firstPresent {names : List String} {found : Json}
    (h : firstPresent value names = some (name, found)) :
    name ∈ names ∧ value.get? name = some found := by
  induction names with
  | nil => cases h
  | cons n rest ih =>
    rw [firstPresent] at h
    split at h
    · next v here =>
      cases h
      exact ⟨List.mem_cons_self .., here⟩
    · exact ⟨List.mem_cons_of_mem _ (ih h).1, (ih h).2⟩

/-- A lookup is where it says it is, and in an object unless the member may be absent. -/
def Noted (schema : Schema α) (value : Json) (lookup : Lookup) : Prop :=
  At lookup.place value lookup.value ∧
    (lookup.value.isObject = true ∨ lookup.place ∈ optionalPlaces schema)

theorem Noted.mono {inner : Schema α} {outer : Schema β} {lookup : Lookup}
    (h : Noted inner value lookup)
    (sub : ∀ place ∈ optionalPlaces inner, place ∈ optionalPlaces outer) :
    Noted outer value lookup :=
  ⟨h.1, h.2.imp_right fun optional => sub _ optional⟩

theorem Noted.under {inner : Schema α} {outer : Schema β} {lookup : Lookup} {turn : Turn}
    {found : Json} (h : Noted inner found lookup)
    (reached : ∀ place w, At place found w → At (turn :: place) value w)
    (sub : ∀ place ∈ optionalPlaces inner, turn :: place ∈ optionalPlaces outer) :
    Noted outer value (lookup.under turn) :=
  ⟨reached _ _ h.1, h.2.imp_right fun optional => sub _ optional⟩

theorem noted_of_gather {γ : Type} {item : Schema α} {outer : Schema β} {values : List Json}
    {read : List (γ × List Lookup)}
    (each : ∀ r ∈ read, ∃ v ∈ values, ∀ l ∈ r.2, Noted item v l)
    (sub : ∀ place ∈ optionalPlaces item, Turn.item :: place ∈ optionalPlaces outer) :
    ∀ l ∈ (gather .item read).2, Noted outer (.array values) l := by
  intro l hl
  obtain ⟨l, inside, rfl⟩ := List.mem_map.1 hl
  obtain ⟨r, hr, hl⟩ := List.mem_flatMap.1 inside
  obtain ⟨v, hv, noted⟩ := each r hr
  exact (noted l hl).under (fun _ _ at_v => ⟨values, rfl, v, hv, at_v⟩) sub

theorem noted_of_decodeNoting {schema : Schema α} {a : α}
    (h : schema.decodeNoting name value = .ok (a, lookups)) :
    ∀ l ∈ lookups, Noted schema value l := by
  induction schema generalizing name value lookups with
  | const a =>
    cases h
    nofun
  | ap f x ihf ihx =>
    rw [decodeNoting] at h
    split at h
    · cases h
    · next g before read =>
      split at h
      · cases h
      · next a after readArgument =>
        cases h
        intro l hl
        obtain hl | hl := List.mem_append.1 hl
        · exact (ihf read l hl).mono fun _ => List.mem_append_left _
        · exact (ihx readArgument l hl).mono fun _ => List.mem_append_right _
  | leaf kind =>
    obtain ⟨a, -, eq⟩ := map_eq_ok.1 h
    cases eq
    nofun
  | items item ih =>
    cases value with
    | array values =>
      obtain ⟨read, reading, eq⟩ := map_eq_ok.1 h
      cases eq
      refine noted_of_gather (fun r hr => ?_) fun _ => List.mem_map_of_mem
      obtain ⟨v, hv, readItem⟩ := exists_of_eachItem reading hr
      exact ⟨v, hv, ih readItem⟩
    | _ => cases h
  | gaps item ih =>
    cases value with
    | array values =>
      obtain ⟨read, reading, eq⟩ := map_eq_ok.1 h
      cases eq
      refine noted_of_gather (fun r hr => ?_) fun _ => List.mem_map_of_mem
      obtain ⟨v, hv, readItem⟩ := exists_of_eachItem reading hr
      obtain ⟨gap, readGap, rfl⟩ := map_eq_ok.1 readItem
      refine ⟨v, hv, ?_⟩
      cases gap with
      | none => nofun
      | some read => exact ih (of_gapOr readGap)
    | _ => cases h
  | member names inner ih =>
    rw [decodeNoting] at h
    split at h
    · cases h
    · next found v first =>
      obtain ⟨known, present⟩ := mem_of_firstPresent first
      obtain ⟨⟨a, inside⟩, read, eq⟩ := map_eq_ok.1 h
      cases eq
      rw [List.forall_mem_cons, List.forall_mem_map]
      refine ⟨⟨rfl, .inl (Json.isObject_of_get? present)⟩, fun l hl => ?_⟩
      exact (ih read l hl).under (fun _ _ at_v => ⟨v, present, at_v⟩) fun _ optional =>
        List.mem_flatMap.2 ⟨found, known, List.mem_map_of_mem optional⟩
  | optional field inner ih =>
    rw [decodeNoting] at h
    split at h
    · cases h
      rw [List.forall_mem_singleton]
      exact ⟨rfl, .inr (List.mem_cons_self ..)⟩
    · next v present =>
      obtain ⟨⟨a, inside⟩, read, eq⟩ := map_eq_ok.1 h
      cases eq
      rw [List.forall_mem_cons, List.forall_mem_map]
      refine ⟨⟨rfl, .inr (List.mem_cons_self ..)⟩, fun l hl => ?_⟩
      exact (ih read l hl).under (fun _ _ at_v => ⟨v, present, at_v⟩) fun _ optional =>
        List.mem_cons_of_mem _ (List.mem_map_of_mem optional)
  | orElse first second ihf ihs =>
    rw [decodeNoting] at h
    split at h
    · cases h
    · next a before read =>
      cases h
      exact fun l hl => (ihf read l hl).mono fun _ => List.mem_append_left _
    · next before read =>
      obtain ⟨⟨a, after⟩, readSecond, eq⟩ := map_eq_ok.1 h
      cases eq
      intro l hl
      obtain hl | hl := List.mem_append.1 hl
      · exact (ihf read l hl).mono fun _ => List.mem_append_left _
      · exact (ihs readSecond l hl).mono fun _ => List.mem_append_right _
  | textOrObject text object iht iho =>
    cases value with
    | string s => exact fun l hl => (iht h l hl).mono fun _ => List.mem_append_left _
    | object members => exact fun l hl => (iho h l hl).mono fun _ => List.mem_append_right _
    | _ => cases h

/-! ## Where some member has to be present -/

theorem sure_of_decode {schema : Schema α} {a : α} (h : schema.decode name value = .ok a) :
    ∀ place ∈ surePlaces schema, ∀ found, At place value found → found.isObject = true := by
  induction schema generalizing name value with
  | const a => rintro _ ⟨⟩
  | ap f x ihf ihx =>
    rw [decode] at h
    split at h
    · cases h
    · next g read =>
      split at h
      · cases h
      · next b readArgument =>
        intro place sure
        obtain sure | sure := List.mem_append.1 sure
        · exact ihf read place sure
        · exact ihx readArgument place sure
  | leaf kind => rintro _ ⟨⟩
  | items item ih =>
    cases value with
    | array values =>
      rintro _ sure found reached
      obtain ⟨place, within, rfl⟩ := List.mem_map.1 sure
      obtain ⟨_, ⟨⟩, v, hv, reached⟩ := reached
      obtain ⟨b, read⟩ := ok_of_eachItem h hv
      exact ih read place within found reached
    | _ => cases h
  | gaps item ih => rintro _ ⟨⟩
  | member names inner ih =>
    rw [decode] at h
    split at h
    · cases h
    · next known v first =>
      obtain ⟨known, present⟩ := mem_of_firstPresent first
      have here : ∀ found, At [] value found → found.isObject = true := by
        rintro _ rfl
        exact Json.isObject_of_get? present
      -- Below a member of several names nothing is sure, as any of them may have been found.
      obtain _ | ⟨only, _ | ⟨another, others⟩⟩ := names
      · cases known
      · obtain rfl := List.mem_singleton.1 known
        rintro _ (_ | ⟨_, sure⟩)
        · exact here
        · obtain ⟨place, within, rfl⟩ := List.mem_map.1 sure
          rintro found ⟨w, again, reached⟩
          obtain rfl : v = w := Option.some.inj (present.symm.trans again)
          exact ih h place within found reached
      · intro place sure
        obtain rfl := List.mem_singleton.1 sure
        exact here
  | optional field inner ih =>
    rintro _ sure found reached
    obtain ⟨place, within, rfl⟩ := List.mem_map.1 sure
    obtain ⟨v, present, reached⟩ := reached
    rw [decode, present] at h
    obtain ⟨b, read, -⟩ := map_eq_ok.1 h
    exact ih read place within found reached
  | orElse first second ihf ihs =>
    rw [decode] at h
    split at h
    · cases h
    · next read => exact ihf read
    · next read => exact ihf read
  | textOrObject text object iht iho => rintro _ ⟨⟩

/-- Whatever is accepted, the account of it says where members were looked for, and each of these
values is an object unless nothing but optional members is looked for at its place. -/
theorem noted_of_decode {schema : Schema α} {a : α} (h : schema.decode name value = .ok a) :
    ∃ lookups, schema.decodeNoting name value = .ok (a, lookups) ∧ ∀ l ∈ lookups,
      At l.place value l.value ∧ (l.value.isObject = true ∨ l.place ∈ lenientPlaces schema) := by
  rw [← decodeNoting_fst] at h
  obtain ⟨⟨_, lookups⟩, noting, rfl⟩ := map_eq_ok.1 h
  refine ⟨lookups, noting, fun l hl => ?_⟩
  obtain ⟨here, object | optional⟩ := noted_of_decodeNoting noting l hl
  · exact ⟨here, .inl object⟩
  · -- An optional member may stand beside one that has to be there.
    by_cases sure : l.place ∈ surePlaces schema
    · rw [decodeNoting_fst] at h
      exact ⟨here, .inl (sure_of_decode h _ sure _ here)⟩
    · exact ⟨here, .inr (List.mem_filter.2 ⟨optional, decide_eq_true sure⟩)⟩

end Schema

end Tendermint
