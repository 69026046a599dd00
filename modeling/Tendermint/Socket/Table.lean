/-!
# Tendermint.Socket.Table

Finite tables, in which no key has two entries. An entry that is put in replaces one with the
same key.

* `get?_insert`, `get?_erase`, `get?_keep`: what a look-up finds after a change.
* `get?_eq_some`: a look-up finds exactly the entries.
* `get?_of_erase`, `get?_of_keep`: a look-up finds nothing new after something was taken out.
* `erase_comm`, `erase_erase`: entries are taken out in any order, and once.
* `contains_insert`, `contains_erase`: which keys have an entry after a change.
-/

namespace Tendermint

structure Table (κ ν : Type) where
  entries : List (κ × ν)
  distinct : (entries.map Prod.fst).Nodup
  deriving Repr, DecidableEq

namespace Table

variable {κ ν : Type}

def empty : Table κ ν := ⟨[], .nil⟩

/-- The entries that a test accepts. -/
def select (table : Table κ ν) (test : κ × ν → Bool) : Table κ ν :=
  ⟨table.entries.filter test, table.distinct.sublist (List.filter_sublist.map _)⟩

/-- Keeps the entries whose values pass a test. -/
def keep (table : Table κ ν) (test : ν → Bool) : Table κ ν := table.select fun entry => test entry.2

variable [DecidableEq κ]

def get? (table : Table κ ν) (key : κ) : Option ν :=
  (table.entries.find? fun entry => entry.1 = key).map Prod.snd

def contains (table : Table κ ν) (key : κ) : Bool := (table.get? key).isSome

def erase (table : Table κ ν) (key : κ) : Table κ ν := table.select fun entry => entry.1 ≠ key

def insert (table : Table κ ν) (key : κ) (value : ν) : Table κ ν where
  entries := (table.erase key).entries ++ [(key, value)]
  distinct := by
    rw [List.map_append, List.nodup_append]
    refine ⟨(table.erase key).distinct, by simp, ?_⟩
    simp [erase, select]

theorem find?_of_mem {entries : List (κ × ν)} (distinct : (entries.map Prod.fst).Nodup)
    {key : κ} {value : ν} (h : (key, value) ∈ entries) :
    entries.find? (fun entry => entry.1 = key) = some (key, value) := by
  induction entries with
  | nil => cases h
  | cons entry rest ih =>
    rw [List.map_cons, List.nodup_cons] at distinct
    rcases List.mem_cons.1 h with rfl | h
    · simp
    · have other : entry.1 ≠ key := by
        rintro rfl
        exact distinct.1 (List.mem_map.2 ⟨_, h, rfl⟩)
      rw [List.find?_cons_of_neg (by simpa using other)]
      exact ih distinct.2 h

/-- A look-up finds exactly the entries. -/
theorem get?_eq_some {table : Table κ ν} {key : κ} {value : ν} :
    table.get? key = some value ↔ (key, value) ∈ table.entries := by
  constructor
  · intro h
    obtain ⟨⟨k, v⟩, found, rfl⟩ := Option.map_eq_some_iff.1 h
    have hk : k = key := by simpa using List.find?_some found
    exact hk ▸ List.mem_of_find?_eq_some found
  · intro h
    rw [get?, find?_of_mem table.distinct h, Option.map_some]

@[simp] theorem get?_empty (key : κ) : (empty : Table κ ν).get? key = none := rfl

theorem get?_erase (table : Table κ ν) (key other : κ) :
    (table.erase key).get? other = if other = key then none else table.get? other := by
  simp only [get?, erase, select, List.find?_filter]
  by_cases h : other = key
  · subst h
    simp
  · rw [if_neg h]
    congr 2
    funext entry
    by_cases ho : entry.1 = other <;> simp [ho, h]

theorem get?_insert (table : Table κ ν) (key other : κ) (value : ν) :
    (table.insert key value).get? other = if other = key then some value else table.get? other := by
  have erased := table.get?_erase key other
  simp only [get?, insert] at erased ⊢
  rw [List.find?_append]
  by_cases h : other = key
  · subst h
    rw [if_pos rfl, Option.map_eq_none_iff] at erased
    rw [erased]
    simp
  · rw [if_neg h] at erased ⊢
    rw [← erased]
    have hk : ¬ key = other := fun e => h e.symm
    simp [hk]

theorem get?_keep (table : Table κ ν) (test : ν → Bool) (key : κ) :
    (table.keep test).get? key = (table.get? key).filter test := by
  ext value
  rw [get?_eq_some, Option.filter_eq_some_iff, get?_eq_some]
  simp [keep, select]

/-- What is found after something was taken out was there before. -/
theorem get?_of_erase {table : Table κ ν} {key other : κ} {value : ν}
    (found : (table.erase key).get? other = some value) : table.get? other = some value := by
  rw [get?_erase] at found
  exact (Option.ite_none_left_eq_some.1 found).2

/-- Taking out what is not there changes nothing. -/
theorem erase_of_get?_eq_none {table : Table κ ν} {key : κ} (missing : table.get? key = none) :
    table.erase key = table := by
  have others : table.entries.filter (fun entry => entry.1 ≠ key) = table.entries := by
    rw [List.filter_eq_self]
    rintro ⟨other, value⟩ held
    rw [decide_eq_true_eq]
    rintro rfl
    cases missing.symm.trans (get?_eq_some.2 held)
  cases table
  simp only [erase, select, mk.injEq]
  exact others

theorem erase_comm (table : Table κ ν) (key other : κ) :
    (table.erase key).erase other = (table.erase other).erase key := by
  have entries : ((table.erase key).erase other).entries =
      ((table.erase other).erase key).entries := by
    simp only [erase, select, List.filter_filter, Bool.and_comm]
  generalize (table.erase key).erase other = left, (table.erase other).erase key = right at *
  cases left
  cases right
  cases entries
  rfl

@[simp] theorem erase_erase (table : Table κ ν) (key : κ) :
    (table.erase key).erase key = table.erase key :=
  erase_of_get?_eq_none (by rw [get?_erase, if_pos rfl])

theorem get?_of_keep {table : Table κ ν} {test : ν → Bool} {key : κ} {value : ν}
    (found : (table.keep test).get? key = some value) : table.get? key = some value := by
  rw [get?_keep] at found
  exact (Option.filter_eq_some_iff.1 found).1

theorem contains_erase (table : Table κ ν) (key other : κ) :
    (table.erase key).contains other = (decide (other ≠ key) && table.contains other) := by
  rw [contains, get?_erase, contains]
  split <;> simp_all

theorem contains_insert (table : Table κ ν) (key other : κ) (value : ν) :
    (table.insert key value).contains other = (decide (other = key) || table.contains other) := by
  rw [contains, get?_insert, contains]
  split <;> simp_all

end Table

end Tendermint
