import Mathlib.Data.List.TakeWhile
import Tendermint.Proofs.Schema.Integer
import Tendermint.Proofs.Schema.Loss

/-!
# Tendermint.Proofs.Schema.Refusal

Which values a leaf takes, said without its reader, and with which error all others are refused.

* `Leaf.Admits`, `Leaf.admits_iff`: the values of a leaf are those that its reader accepts.
* `Schema.Refuses`, `Schema.decode_of_refuses`: a refused value is an error that names its field,
  or the type of a key that is not known.
-/

namespace Tendermint

namespace Leaf

variable {α : Type}

/-- A setting in a list of settings. -/
def IsSetting (entry : Json) : Prop := ∃ text, entry = .string text ∧ '=' ∈ text.toList

/-- The values that stand for something. -/
def Admits : Leaf α → Json → Prop
  | .string, v => ∃ text, v = .string text
  | .bool, v => ∃ b, v = .bool b
  | .u32, v => ∃ n : Int, v.Denotes n ∧ 0 ≤ n ∧ n < UInt32.size
  | .u64, v => ∃ n : Int, v.Denotes n ∧ 0 ≤ n ∧ n < UInt64.size
  | .i64, v => ∃ n, v.Denotes n ∧ Int64.minValue.toInt ≤ n ∧ n ≤ Int64.maxValue.toInt
  | .hex, v => ∃ text bytes, v = .string text ∧ Hex.decode text = .ok bytes
  | .base64, v => ∃ text bytes, v = .string text ∧ Base64.decode text = .ok bytes
  | .time, v => ∃ text time, v = .string text ∧ Timestamp.ofText text = .ok time
  | .json, _ => True
  | .keyType accepted, v => ∃ kind ∈ accepted, v = .string kind
  | .settings, v =>
    (∃ members, v = .object members) ∨
      ∃ entries, v = .array entries ∧ ∀ entry ∈ entries, IsSetting entry

/-- The error for a value that is refused. -/
def Blames : Leaf α → String → Json → DecodeError → Prop
  | .keyType _, _, .string kind, e => e = .unknownKeyType kind
  | _, name, _, e => ∃ reason, e = .invalidField name reason

/-- A value is read where it is admitted, and refused with its error where it is not. -/
def Judges (kind : Leaf α) (name : String) (v : Json) : Prop :=
  (kind.Admits v ∧ ∃ a, kind.read name v = .ok a) ∨
    (¬ kind.Admits v ∧ ∃ e, kind.read name v = .error e ∧ kind.Blames name v e)

section Judges

variable {v : Json}

theorem admits_of_isInteger {kind : Leaf α} (integer : kind.isInteger = true) :
    kind.Admits v ↔ ∃ n a, v.Denotes n ∧ kind.ofInteger? n = some a := by
  cases kind with
  | u32 | u64 | i64 => simp [Admits, ofInteger?]
  | _ => cases integer

theorem judges_integer {kind : Leaf α} (integer : kind.isInteger = true) (name : String)
    (v : Json) : kind.Judges name v := by
  have admitted : kind.Admits v ↔ ∃ a, kind.read name v = .ok a := by
    simp only [admits_of_isInteger integer, read_eq_ok_of_isInteger integer]
    exact exists_comm
  by_cases read : ∃ a, kind.read name v = .ok a
  · exact .inl ⟨admitted.2 read, read⟩
  · obtain ⟨reason, invalid⟩ := invalid_of_isInteger integer fun a found => read ⟨a, found⟩
    refine .inr ⟨mt admitted.1 read, _, invalid, ?_⟩
    cases kind with
    | u32 | u64 | i64 => exact ⟨reason, rfl⟩
    | _ => cases integer

theorem cutAtEquals_eq_none {text : List Char} : cutAtEquals text = none ↔ '=' ∉ text := by
  have cut : cutAtEquals text = none ↔ text.dropWhile (· ≠ '=') = [] := by
    rw [cutAtEquals]
    split
    · next none => exact iff_of_true rfl none
    · next c rest found => exact iff_of_false (by rintro ⟨⟩) (by rw [found]; rintro ⟨⟩)
  rw [cut, List.dropWhile_eq_nil_iff]
  constructor
  · exact fun all here => of_decide_eq_true (all '=' here) rfl
  · rintro none c here
    exact decide_eq_true fun same => none (same ▸ here)

theorem settingOfEntry_cases (name : String) (entry : Json) :
    (IsSetting entry ∧ ∃ pair, settingOfEntry name entry = .ok pair) ∨
      (¬ IsSetting entry ∧ ∃ reason, settingOfEntry name entry = .error (.invalidField name reason)) := by
  cases entry with
  | string text =>
    cases cut : cutAtEquals text.toList with
    | none =>
      refine .inr ⟨?_, _, by rw [settingOfEntry, cut]⟩
      rintro ⟨_, ⟨⟩, here⟩
      exact cutAtEquals_eq_none.1 cut here
    | some pair =>
      refine .inl ⟨⟨text, rfl, ?_⟩, _, by rw [settingOfEntry, cut]⟩
      by_contra none
      rw [cutAtEquals_eq_none.2 none] at cut
      cases cut
  | _ => exact .inr ⟨by rintro ⟨_, ⟨⟩, -⟩, _, rfl⟩

theorem settings_cases (name : String) (entries : List Json) :
    ((∀ entry ∈ entries, IsSetting entry) ∧
        ∃ pairs, entries.mapM (settingOfEntry name) = .ok pairs) ∨
      (¬ (∀ entry ∈ entries, IsSetting entry) ∧
        ∃ reason, entries.mapM (settingOfEntry name) = .error (.invalidField name reason)) := by
  induction entries with
  | nil => exact .inl ⟨by rintro _ ⟨⟩, [], rfl⟩
  | cons first rest ih =>
    rw [List.forall_mem_cons, List.mapM_cons]
    obtain ⟨setting, pair, read⟩ | ⟨refused, reason, read⟩ := settingOfEntry_cases name first
    · obtain ⟨settings, pairs, others⟩ | ⟨refused, reason, others⟩ := ih
      · exact .inl ⟨⟨setting, settings⟩, _, by rw [read, others]; rfl⟩
      · exact .inr ⟨fun all => refused all.2, reason, by rw [read, others]; rfl⟩
    · exact .inr ⟨fun all => refused all.1, reason, by rw [read]; rfl⟩

theorem judges_settings (name : String) (v : Json) : Leaf.settings.Judges name v := by
  cases v with
  | object members => exact .inl ⟨.inl ⟨members, rfl⟩, _, rfl⟩
  | array entries =>
    obtain ⟨settings, pairs, read⟩ | ⟨refused, reason, read⟩ := settings_cases name entries
    · exact .inl ⟨.inr ⟨entries, rfl, settings⟩, _, by rw [Leaf.read, readSettings, read]⟩
    · refine .inr ⟨?_, _, by rw [Leaf.read, readSettings, read], reason, rfl⟩
      rintro (⟨_, ⟨⟩⟩ | ⟨_, ⟨⟩, settings⟩)
      exact refused settings
  | _ => exact .inr ⟨by rintro (⟨_, ⟨⟩⟩ | ⟨_, ⟨⟩, -⟩), _, rfl, _, rfl⟩

/-- Every leaf takes the values that it admits and no others. -/
theorem judges (kind : Leaf α) (name : String) (v : Json) : kind.Judges name v := by
  cases kind with
  | string => cases v <;> simp [Judges, Admits, Blames, read, readString]
  | bool => cases v <;> simp [Judges, Admits, Blames, read, readBool]
  | u32 | u64 | i64 => exact judges_integer rfl name v
  | hex =>
    cases v with
    | string text =>
      cases decoded : Hex.decode text <;>
        simp [Judges, Admits, Blames, read, readHex, readString, decoded, Except.mapError]
    | _ => simp [Judges, Admits, Blames, read, readHex, readString]
  | base64 =>
    cases v with
    | string text =>
      cases decoded : Base64.decode text <;>
        simp [Judges, Admits, Blames, read, readBase64, readString, decoded, Except.mapError]
    | _ => simp [Judges, Admits, Blames, read, readBase64, readString]
  | time =>
    cases v with
    | string text =>
      cases decoded : Timestamp.ofText text <;>
        simp [Judges, Admits, Blames, read, readTime, readString, decoded, Except.mapError]
    | _ => simp [Judges, Admits, Blames, read, readTime, readString]
  | json => exact .inl ⟨trivial, v, rfl⟩
  | keyType accepted =>
    cases v with
    | string kind =>
      by_cases known : kind ∈ accepted <;>
        simp [Judges, Admits, Blames, read, readKeyType, readString, known]
    | _ => simp [Judges, Admits, Blames, read, readKeyType, readString]
  | settings => exact judges_settings name v

theorem admits_iff {kind : Leaf α} (name : String) : kind.Admits v ↔ ∃ a, kind.read name v = .ok a := by
  obtain ⟨admitted, read⟩ | ⟨refused, e, read, -⟩ := kind.judges name v
  · exact iff_of_true admitted read
  · refine iff_of_false refused ?_
    rw [read]
    rintro ⟨_, ⟨⟩⟩

theorem read_of_not_admits {kind : Leaf α} (name : String) (h : ¬ kind.Admits v) :
    ∃ e, kind.read name v = .error e ∧ kind.Blames name v e := by
  obtain ⟨admitted, -⟩ | ⟨-, refused⟩ := kind.judges name v
  · exact absurd admitted h
  · exact refused

end Judges

def isKeyType : Leaf α → Bool
  | .keyType _ => true
  | _ => false

end Leaf

namespace Schema

variable {α : Type}

/-- A leaf, other than the type of a key, that does not admit the value. -/
def RefusesLeaf : Schema α → Json → Prop
  | .leaf kind, v => kind.isKeyType = false ∧ ¬ kind.Admits v
  | _, _ => False

/-- A text that may also be an object does not admit anything but texts and objects, nor a text that
its leaf does not admit. -/
def RefusesText : Schema α → Json → Prop
  | .textOrObject text _, v => v.isObject = false ∧ ∀ s, v = .string s → text.RefusesLeaf v
  | _, _ => False

def isConst : Schema α → Bool
  | .const _ => true
  | _ => false

/-- A value that a leaf does not admit, or for a list one that is no list or has an item that the
leaf of its items does not admit. -/
def Refuses : Schema α → Json → Prop
  | .leaf kind, v => ¬ kind.Admits v
  | .items item, v => ∀ values, v = .array values → ∃ w ∈ values, item.RefusesLeaf w
  | .gaps _, v => ∀ values, v ≠ .array values
  | .ap f x, v => f.isConst = true ∧ x.RefusesText v
  | _, _ => False

/-- The error for a value that is refused. -/
def Blames : Schema α → String → Json → DecodeError → Prop
  | .leaf kind, name, v, e => kind.Blames name v e
  | _, name, _, e => ∃ reason, e = .invalidField name reason

variable {schema : Schema α} {name : String} {v : Json}

theorem decode_of_refusesLeaf (name : String) (h : schema.RefusesLeaf v) :
    ∃ reason, schema.decode name v = .error (.invalidField name reason) := by
  cases schema with
  | leaf kind =>
    obtain ⟨other, refused⟩ := h
    obtain ⟨e, read, blamed⟩ := Leaf.read_of_not_admits name refused
    cases kind with
    | keyType accepted => cases other
    | _ =>
      obtain ⟨reason, rfl⟩ := blamed
      exact ⟨reason, read⟩
  | _ => cases h

theorem decode_of_isConst (h : schema.isConst = true) :
    ∃ a, ∀ name v, schema.decode name v = .ok a := by
  cases schema with
  | const a => exact ⟨a, fun _ _ => rfl⟩
  | _ => cases h

/-- The first item that is not admitted is the error of the list. -/
theorem eachItem_of_refusesLeaf (name : String) {values : List Json} {w : Json} (here : w ∈ values)
    (h : schema.RefusesLeaf w) :
    ∃ reason, eachItem (schema.decode name) values = .error (.invalidField name reason) := by
  cases schema with
  | leaf kind =>
    induction values with
    | nil => cases here
    | cons v rest ih =>
      by_cases admitted : kind.Admits v
      · have later : w ∈ rest := by
          obtain rfl | later := List.mem_cons.1 here
          · exact absurd admitted h.2
          · exact later
        obtain ⟨a, read⟩ := (Leaf.admits_iff name).1 admitted
        obtain ⟨reason, failed⟩ := ih later
        exact ⟨reason, by rw [eachItem, decode_leaf, read, failed]⟩
      · have refused : (Schema.leaf kind).RefusesLeaf v := ⟨h.1, admitted⟩
        obtain ⟨reason, read⟩ := decode_of_refusesLeaf name refused
        exact ⟨reason, by rw [eachItem, read]⟩
  | _ => cases h

theorem decode_of_refusesText (name : String) (h : schema.RefusesText v) :
    ∃ reason, schema.decode name v = .error (.invalidField name reason) := by
  cases schema with
  | textOrObject text object =>
    cases v with
    | object members => cases h.1
    | string s =>
      have refused : text.RefusesLeaf (.string s) := h.2 s rfl
      obtain ⟨reason, read⟩ := decode_of_refusesLeaf name refused
      exact ⟨reason, read⟩
    | _ => exact ⟨_, rfl⟩
  | _ => cases h

theorem decode_of_refuses (name : String) (h : schema.Refuses v) :
    ∃ e, schema.decode name v = .error e ∧ schema.Blames name v e := by
  cases schema with
  | leaf kind => exact Leaf.read_of_not_admits name h
  | items item =>
    cases v with
    | array values =>
      obtain ⟨w, here, refused⟩ := h values rfl
      obtain ⟨reason, read⟩ := eachItem_of_refusesLeaf name here refused
      exact ⟨_, read, reason, rfl⟩
    | _ => exact ⟨_, rfl, _, rfl⟩
  | gaps item =>
    cases v with
    | array values => exact absurd rfl (h values)
    | _ => exact ⟨_, rfl, _, rfl⟩
  | ap f x =>
    obtain ⟨g, constant⟩ := decode_of_isConst h.1
    obtain ⟨reason, read⟩ := decode_of_refusesText name h.2
    exact ⟨_, by rw [decode, constant, read], reason, rfl⟩
  | _ => cases h

/-- Whatever is accepted, a refused value in the place of a member that is looked for makes the
whole fail, with the error of that member. -/
theorem decode_edit_of_refuses {path : Json.Path} {key : String} {old bad : Json} {a : α}
    {access : Access} (regular : schema.Regular) (read : schema.decode name v = .ok a)
    (looked : schema.access name v path key = some access)
    (found : v.find? (path ++ [.member key]) = some old) (shown : bad ≠ .null)
    (refuses : access.reader.Refuses bad) :
    ∃ e, schema.decode name (v.edit path key (some bad)) = .error e ∧
      access.reader.Blames key bad e := by
  obtain ⟨members, here⟩ := Json.object_of_find? found
  obtain ⟨e, error, blamed⟩ := decode_of_refuses key refuses
  exact ⟨e, decisive_of_decode regular.settled read (outside_of_access regular.apart looked)
    looked here (.refused rfl (Json.unlessNull_of_ne shown) error), blamed⟩

end Schema

end Tendermint
