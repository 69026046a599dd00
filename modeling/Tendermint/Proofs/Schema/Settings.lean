import Mathlib.Data.List.Forall2
import Mathlib.Data.List.Induction
import Mathlib.Data.List.Perm.Basic
import Tendermint.Answer.Node
import Tendermint.Proofs.Schema.Decode
import Tendermint.Proofs.Url.Separator

/-!
# Tendermint.Proofs.Schema.Settings

Named settings are a map, kept in the order of its keys. They are written as an object, or as a list
of texts `key=value` in any order, and both are read as the same map.

* `Settings.Sorted`, `Settings.Counts`: the map, and which entry of a list with repeated keys is in it.
* `Settings.mem_gather`, `Settings.gather_of_perm`: what is gathered from a list of entries.
* `Settings.sets_entryOf`, `Settings.settingOfEntry_string`, `Settings.settingOfEntry_of_not`: the texts
  that are settings, and the entries that are none.
* `settings_have_two_layouts`.
-/

namespace Tendermint

namespace Settings

open Leaf (putSetting settingOfEntry cutAtEquals settingText)

/-- Keys in strictly increasing order, which makes the list a map. -/
def Sorted (settings : List (String × String)) : Prop := settings.Pairwise fun a b => a.1 < b.1

/-- The settings that entries make up one after the other. -/
def gather (entries : List (String × String)) : List (String × String) :=
  entries.foldl (fun all entry => putSetting entry.1 entry.2 all) []

/-- An entry that no later one with its key replaces. -/
def Counts (entries : List (String × String)) (entry : String × String) : Prop :=
  ∃ earlier later, entries = earlier ++ entry :: later ∧ ∀ other ∈ later, other.1 ≠ entry.1

section Map

variable {key value : String} {settings others entries : List (String × String)}
  {entry last : String × String}

theorem mem_putSetting (sorted : Sorted settings) :
    entry ∈ putSetting key value settings ↔
      entry = (key, value) ∨ (entry ∈ settings ∧ entry.1 ≠ key) := by
  induction settings with
  | nil => simp [putSetting]
  | cons first rest ih =>
    obtain ⟨k, v⟩ := first
    obtain ⟨above, sortedRest⟩ := List.pairwise_cons.1 sorted
    rw [putSetting]
    split_ifs with same before
    · -- The other keys are above the one that is replaced.
      subst same
      have apart : entry ∈ rest → entry.1 ≠ key := fun here => (String.ne_of_lt (above entry here)).symm
      grind
    · have apart : entry ∈ rest → entry.1 ≠ key := fun here =>
        (String.ne_of_lt (String.lt_trans before (above entry here))).symm
      grind
    · rw [List.mem_cons, ih sortedRest, List.mem_cons]
      have apart : entry = (k, v) → entry.1 ≠ key := fun here => here ▸ Ne.symm same
      grind

theorem sorted_putSetting (sorted : Sorted settings) : Sorted (putSetting key value settings) := by
  induction settings with
  | nil => exact List.pairwise_singleton _ _
  | cons first rest ih =>
    obtain ⟨k, v⟩ := first
    obtain ⟨above, sortedRest⟩ := List.pairwise_cons.1 sorted
    rw [putSetting]
    split_ifs with same before
    · subst same
      exact List.pairwise_cons.2 ⟨above, sortedRest⟩
    · refine List.pairwise_cons.2 ⟨?_, sorted⟩
      exact List.forall_mem_cons.2 ⟨before, fun other here => String.lt_trans before (above other here)⟩
    · have after : k < key := Std.lt_of_le_of_ne (String.not_lt.1 before) (Ne.symm same)
      refine List.pairwise_cons.2 ⟨fun other here => ?_, ih sortedRest⟩
      obtain rfl | ⟨here, -⟩ := (mem_putSetting sortedRest).1 here
      · exact after
      · exact above other here

/-- Two maps with the same entries are the same list. -/
theorem Sorted.ext (sorted : Sorted settings) (sorted' : Sorted others)
    (same : ∀ entry, entry ∈ settings ↔ entry ∈ others) : settings = others := by
  have distinct {l : List (String × String)} (sorted : Sorted l) : l.Nodup :=
    sorted.imp fun below same => String.ne_of_lt below (congrArg Prod.fst same)
  have perm := (List.perm_ext_iff_of_nodup (distinct sorted) (distinct sorted')).2 same
  exact perm.eq_of_pairwise (fun _ _ _ _ below above => absurd above (String.lt_asymm below)) sorted
    sorted'

/-! ## What is gathered -/

theorem gather_concat (entries : List (String × String)) (last : String × String) :
    gather (entries ++ [last]) = putSetting last.1 last.2 (gather entries) := by
  simp [gather]

/-- One more entry counts itself and takes the place of those with its key. -/
theorem counts_concat :
    Counts (entries ++ [last]) entry ↔
      entry = last ∨ (Counts entries entry ∧ entry.1 ≠ last.1) := by
  constructor
  · rintro ⟨earlier, later, parts, free⟩
    obtain rfl | ⟨later, other, rfl⟩ := List.eq_nil_or_concat' later
    · exact .inl (List.singleton_inj.1 (List.append_inj' parts rfl).2).symm
    · rw [← List.cons_append, ← List.append_assoc] at parts
      obtain ⟨rfl, whole⟩ := List.append_inj' parts rfl
      obtain rfl := List.singleton_inj.1 whole
      refine .inr ⟨⟨earlier, later, rfl, fun other here => free other ?_⟩, ?_⟩
      · exact List.mem_append_left _ here
      · exact (free last (by simp)).symm
  · rintro (rfl | ⟨⟨earlier, later, rfl, free⟩, apart⟩)
    · exact ⟨entries, [], rfl, nofun⟩
    · refine ⟨earlier, later ++ [last], by simp, fun other here => ?_⟩
      obtain here | here := List.mem_append.1 here
      · exact free other here
      · exact List.mem_singleton.1 here ▸ apart.symm

theorem sorted_gather (entries : List (String × String)) : Sorted (gather entries) := by
  induction entries using List.reverseRecOn with
  | nil => exact List.Pairwise.nil
  | append_singleton entries last ih =>
    rw [gather_concat]
    exact sorted_putSetting ih

theorem mem_gather : entry ∈ gather entries ↔ Counts entries entry := by
  induction entries using List.reverseRecOn with
  | nil => simp [gather, Counts]
  | append_singleton entries last ih =>
    rw [gather_concat, mem_putSetting (sorted_gather entries), counts_concat, ih]

/-- Where no key comes twice, every entry counts. -/
theorem counts_iff_mem (distinct : (entries.map Prod.fst).Nodup) :
    Counts entries entry ↔ entry ∈ entries := by
  constructor
  · rintro ⟨earlier, later, rfl, -⟩
    exact List.mem_append_right _ List.mem_cons_self
  · intro here
    obtain ⟨earlier, later, rfl⟩ := List.append_of_mem here
    refine ⟨earlier, later, rfl, fun other there same => ?_⟩
    rw [List.map_append, List.map_cons] at distinct
    have fresh := (List.nodup_cons.1 (List.nodup_append.1 distinct).2.1).1
    exact fresh (List.mem_map.2 ⟨other, there, same⟩)

/-- A map is gathered from its entries in any order. -/
theorem gather_of_perm (sorted : Sorted settings) (order : entries.Perm settings) :
    gather entries = settings := by
  have keys : (settings.map Prod.fst).Nodup :=
    List.pairwise_map.2 (sorted.imp fun below => String.ne_of_lt below)
  have distinct : (entries.map Prod.fst).Nodup := (order.map Prod.fst).nodup_iff.2 keys
  exact (sorted_gather entries).ext sorted fun entry =>
    mem_gather.trans ((counts_iff_mem distinct).trans order.mem_iff)

end Map

/-! ## Texts -/

/-- A text is a setting with this key and this value. The key ends at the first `=`. -/
def Sets (text : String) (entry : String × String) : Prop :=
  text = entry.1 ++ "=" ++ entry.2 ∧ '=' ∉ entry.1.toList

/-- An item of a list is a text with a `=` in it. -/
def IsSetting (item : Json) : Prop := ∃ text, item = .string text ∧ '=' ∈ text.toList

/-- The key and the value of a setting. -/
def entryOf (text : String) : String × String :=
  (String.ofList (text.toList.takeWhile (· ≠ '=')),
    String.ofList (text.toList.dropWhile (· ≠ '=')).tail)

/-- What is wrong with an item that is no setting. -/
def itemFault : Json → String
  | .string text => "`" ++ text ++ "` is not key=value"
  | _ => "expected string entries"

section Text

variable {name text : String} {item : Json} {entry : String × String} {texts : List String}

theorem toList_of_sets (sets : Sets text entry) :
    text.toList = entry.1.toList ++ '=' :: entry.2.toList := by
  rw [sets.1]
  simp

theorem entryOf_of_sets (sets : Sets text entry) : entryOf text = entry := by
  rw [entryOf, toList_of_sets sets, Url.takeWhile_ne sets.2, Url.dropWhile_ne sets.2]
  simp

theorem sets_entryOf (inside : '=' ∈ text.toList) : Sets text (entryOf text) := by
  obtain ⟨key, value, parts, first⟩ := List.eq_append_cons_of_mem inside
  have sets : Sets text (String.ofList key, String.ofList value) :=
    ⟨String.toList_inj.1 (by simp [parts]), by simpa using first⟩
  rwa [entryOf_of_sets sets]

theorem settingOfEntry_string (inside : '=' ∈ text.toList) :
    settingOfEntry name (.string text) = .ok (entryOf text) := by
  have parts := toList_of_sets (sets_entryOf inside)
  have first := (sets_entryOf inside).2
  generalize entryOf text = entry at parts first
  simp only [settingOfEntry, cutAtEquals, parts, Url.takeWhile_ne first, Url.dropWhile_ne first,
    String.ofList_toList]

theorem settingOfEntry_of_not (unset : ¬ IsSetting item) :
    settingOfEntry name item = .error (.invalidField name (itemFault item)) := by
  cases item with
  | string text =>
    have apart : '=' ∉ text.toList := fun inside => unset ⟨text, rfl, inside⟩
    simp only [settingOfEntry, cutAtEquals, Url.dropWhile_ne_self apart, itemFault]
  | _ => rfl

theorem mapM_settings (inside : ∀ text ∈ texts, '=' ∈ text.toList) :
    (texts.map Json.string).mapM (settingOfEntry name) = .ok (texts.map entryOf) := by
  induction texts with
  | nil => rfl
  | cons text rest ih =>
    obtain ⟨here, others⟩ := List.forall_mem_cons.1 inside
    rw [List.map_cons, List.mapM_cons, settingOfEntry_string here, ih others]
    rfl

/-- A list is refused for the first of its items that is no setting. -/
theorem mapM_of_not {before after : List Json} (set : ∀ other ∈ before, IsSetting other)
    (unset : ¬ IsSetting item) :
    (before ++ item :: after).mapM (settingOfEntry name) =
      .error (.invalidField name (itemFault item)) := by
  induction before with
  | nil =>
    rw [List.nil_append, List.mapM_cons, settingOfEntry_of_not unset]
    rfl
  | cons first rest ih =>
    obtain ⟨⟨text, rfl, inside⟩, others⟩ := List.forall_mem_cons.1 set
    rw [List.cons_append, List.mapM_cons, settingOfEntry_string inside, ih others]
    rfl

end Text

/-! ## Both layouts -/

section Layouts

variable {name : String} {settings : List (String × String)}

/-- Settings as an object. -/
def object (settings : List (String × String)) : Json :=
  .object (settings.map fun entry => (entry.1, .string entry.2))

/-- A setting as an item of a list. -/
def item (entry : String × String) : Json := .string (entry.1 ++ "=" ++ entry.2)

theorem read_object (sorted : Sorted settings) :
    Leaf.settings.read name (object settings) = .ok settings := by
  have same := gather_of_perm sorted (.refl _)
  rw [gather] at same
  rw [object, Leaf.read, Leaf.readSettings, List.foldl_map]
  simp only [settingText, same]

theorem read_texts {texts : List String} (inside : ∀ text ∈ texts, '=' ∈ text.toList) :
    Leaf.settings.read name (.array (texts.map .string)) = .ok (gather (texts.map entryOf)) := by
  rw [Leaf.read, Leaf.readSettings, mapM_settings inside]
  rfl

/-- Of the texts with one key the last counts. -/
theorem counts_texts {texts : List String} {entry : String × String}
    (inside : ∀ text ∈ texts, '=' ∈ text.toList) :
    Counts (texts.map entryOf) entry ↔
      ∃ earlier text later, texts = earlier ++ text :: later ∧ Sets text entry ∧
        ∀ other ∈ later, ∀ value, ¬ Sets other (entry.1, value) := by
  constructor
  · rintro ⟨earlier, later, parts, free⟩
    obtain ⟨before, rest, rfl, rfl, others⟩ := List.map_eq_append_iff.1 parts
    obtain ⟨text, after, rfl, rfl, rfl⟩ := List.map_eq_cons_iff.1 others
    refine ⟨before, text, after, rfl, sets_entryOf (inside text (by simp)), ?_⟩
    intro other here value sets
    refine free (entryOf other) (List.mem_map_of_mem here) ?_
    rw [entryOf_of_sets sets]
  · rintro ⟨earlier, text, later, rfl, sets, free⟩
    refine ⟨earlier.map entryOf, later.map entryOf, by simp [entryOf_of_sets sets], ?_⟩
    intro other here same
    obtain ⟨text', there, rfl⟩ := List.mem_map.1 here
    have own : Sets text' ((entryOf text').1, (entryOf text').2) :=
      sets_entryOf (inside text' (by simp [there]))
    exact free text' there _ (same ▸ own)

theorem read_items {items : List Json} (sorted : Sorted settings)
    (plain : ∀ entry ∈ settings, '=' ∉ entry.1.toList) (order : items.Perm (settings.map item)) :
    Leaf.settings.read name (.array items) = .ok settings := by
  have comp := congrFun₂ (List.eq_map_comp_perm item) items settings
  obtain ⟨entries, rfl, permuted⟩ := comp.mpr order
  let texts := entries.map fun entry => entry.1 ++ "=" ++ entry.2
  have set : ∀ entry ∈ entries, Sets (entry.1 ++ "=" ++ entry.2) entry := fun entry here =>
    ⟨rfl, plain entry (permuted.mem_iff.1 here)⟩
  have inside : ∀ text ∈ texts, '=' ∈ text.toList := by
    intro text here
    obtain ⟨entry, here, rfl⟩ := List.mem_map.1 here
    simp
  have back : texts.map entryOf = entries := by
    rw [List.map_map]
    exact Text.map_eq_self fun entry here => entryOf_of_sets (set entry here)
  have read := @read_texts name texts inside
  rw [back, gather_of_perm sorted permuted, List.map_map] at read
  exact read

/-- A list with an item that is no setting has a first such item. -/
theorem exists_first_fault {items : List Json} (fault : ∃ item ∈ items, ¬ IsSetting item) :
    ∃ before item after, items = before ++ item :: after ∧
      (∀ other ∈ before, IsSetting other) ∧ ¬ IsSetting item := by
  induction items with
  | nil => simp at fault
  | cons first rest ih =>
    by_cases set : IsSetting first
    · have later : ∃ item ∈ rest, ¬ IsSetting item := by simpa [set] using fault
      obtain ⟨before, item, after, rfl, others, unset⟩ := ih later
      exact ⟨first :: before, item, after, rfl, List.forall_mem_cons.2 ⟨set, others⟩, unset⟩
    · exact ⟨[], first, rest, rfl, nofun, set⟩

end Layouts

end Settings

theorem NodeInfo.other_of_decode {name : String} {json : Json} {info : NodeInfo}
    (read : NodeInfo.schema.decode name json = .ok info) :
    ∃ layout, json.get? "other" = some layout ∧
      Leaf.settings.read "other" layout = .ok info.other := by
  simp only [NodeInfo.schema, Schema.decode_seq_eq_ok, Schema.decode_map_eq_ok] at read
  obtain ⟨_, ⟨_, ⟨_, ⟨_, ⟨_, ⟨_, ⟨_, -, rfl⟩, _, -, rfl⟩, _, -, rfl⟩, _, -, rfl⟩, _, -, rfl⟩, _, -, rfl⟩,
    other, read, rfl⟩ := read
  exact Schema.decode_required_eq_ok.1 read

open Settings in
/-- The settings of a node have two layouts. A map is read back from the object with its entries,
and, if no key has a `=` in it, from a list of its entries as texts `key=value`, in any order. From
any list of texts that have a `=` each a map is read: a key is what stands before the first `=` of a
text, its value is all that stands behind it, and of the texts with one key the last counts. A list
with an item that is no text, or a text without `=`, is refused for the first such item, and nothing
is read of it. A node is read with the settings that are read in this way, or not at all. -/
theorem settings_have_two_layouts (name : String) :
    (∀ settings, Sorted settings →
      Leaf.settings.read name (object settings) = .ok settings ∧
      ((∀ entry ∈ settings, '=' ∉ entry.1.toList) → ∀ items, items.Perm (settings.map item) →
        Leaf.settings.read name (.array items) = .ok settings)) ∧
    (∀ texts : List String, (∀ text ∈ texts, '=' ∈ text.toList) →
      ∃ settings, Leaf.settings.read name (.array (texts.map .string)) = .ok settings ∧
        Sorted settings ∧
        ∀ entry, entry ∈ settings ↔
          ∃ earlier text later, texts = earlier ++ text :: later ∧ Sets text entry ∧
            ∀ other ∈ later, ∀ value, ¬ Sets other (entry.1, value)) ∧
    (∀ items, (∃ item ∈ items, ¬ IsSetting item) →
      ∃ before item after, items = before ++ item :: after ∧
        (∀ other ∈ before, IsSetting other) ∧ ¬ IsSetting item ∧
        Leaf.settings.read name (.array items) = .error (.invalidField name (itemFault item))) ∧
    ∀ json info, NodeInfo.schema.decode name json = .ok info →
      ∃ layout, json.get? "other" = some layout ∧
        Leaf.settings.read "other" layout = .ok info.other := by
  refine ⟨fun settings sorted => ⟨read_object sorted, fun plain items => read_items sorted plain⟩,
    ?_, ?_, ?_⟩
  · intro texts inside
    exact ⟨_, read_texts inside, sorted_gather _, fun entry => mem_gather.trans (counts_texts inside)⟩
  · intro items fault
    obtain ⟨before, item, after, rfl, others, unset⟩ := exists_first_fault fault
    refine ⟨before, item, after, rfl, others, unset, ?_⟩
    rw [Leaf.read, Leaf.readSettings, mapM_of_not others unset]
  · intro json info read
    exact NodeInfo.other_of_decode read

open Settings in
/-- An empty key, an empty value, a value with a `=` in it, and the entries from the last on. -/
theorem settings_from_the_last_on :
    Sorted [("", "on"), ("amino_version", ""), ("tx_index", "a=b")] ∧
      Leaf.settings.read "other"
          (.array [.string "tx_index=a=b", .string "amino_version=", .string "=on"]) =
        .ok [("", "on"), ("amino_version", ""), ("tx_index", "a=b")] := by
  have sorted : Sorted [("", "on"), ("amino_version", ""), ("tx_index", "a=b")] := by
    unfold Sorted
    decide
  have backwards : [Json.string "tx_index=a=b", .string "amino_version=", .string "=on"] =
      ([("", "on"), ("amino_version", ""), ("tx_index", "a=b")].map item).reverse := by
    decide
  have layouts := ((settings_have_two_layouts "other").1 _ sorted).2 (by decide)
  exact ⟨sorted, layouts _ (backwards ▸ List.reverse_perm _)⟩

end Tendermint
