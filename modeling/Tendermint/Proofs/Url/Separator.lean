import Mathlib.Data.List.TakeWhile
import Tendermint.Url.Separator

/-!
# Tendermint.Proofs.Url.Separator

Where a text falls apart. What is written with a separator in between comes apart as it was put
together, as long as no part holds the separator.

* `splitOn_flatMap`: parts behind their separators.
* `not_mem_of_mem_splitOn`: no part holds the separator.
* `takeWhile_append_stop`, `dropWhile_append_stop`: a part up to the character that ends it.
-/

namespace Tendermint.Url

variable {α : Type} {p : α → Bool} {c : α} {part rest text : List α}

theorem takeWhile_append_stop (all : ∀ d ∈ part, p d = true) (stop : p c = false) :
    (part ++ c :: rest).takeWhile p = part := by
  rw [List.takeWhile_append_of_pos all, List.takeWhile_cons_of_neg (by simp [stop]),
    List.append_nil]

theorem dropWhile_append_stop (all : ∀ d ∈ part, p d = true) (stop : p c = false) :
    (part ++ c :: rest).dropWhile p = c :: rest := by
  rw [List.dropWhile_append_of_pos all, List.dropWhile_cons_of_neg (by simp [stop])]

variable [DecidableEq α] {separator : α}

theorem decide_ne_of_not_mem (apart : separator ∉ part) :
    ∀ c ∈ part, decide (c ≠ separator) = true := by
  intro c inside
  simp only [decide_eq_true_eq]
  rintro rfl
  exact apart inside

theorem takeWhile_ne (apart : separator ∉ part) (rest : List α) :
    (part ++ separator :: rest).takeWhile (· ≠ separator) = part :=
  takeWhile_append_stop (decide_ne_of_not_mem apart) (by simp)

theorem dropWhile_ne (apart : separator ∉ part) (rest : List α) :
    (part ++ separator :: rest).dropWhile (· ≠ separator) = separator :: rest :=
  dropWhile_append_stop (decide_ne_of_not_mem apart) (by simp)

theorem takeWhile_ne_self (apart : separator ∉ part) : part.takeWhile (· ≠ separator) = part :=
  List.takeWhile_eq_self_iff.2 (decide_ne_of_not_mem apart)

theorem dropWhile_ne_self (apart : separator ∉ part) : part.dropWhile (· ≠ separator) = [] :=
  List.dropWhile_eq_nil_iff.2 (decide_ne_of_not_mem apart)

theorem splitOn_ne_nil (separator : α) (text : List α) : splitOn separator text ≠ [] := by
  cases text with
  | nil => simp [splitOn]
  | cons c rest =>
    rw [splitOn]
    split
    · simp
    · split <;> simp

theorem splitOn_cons_of_ne (other : c ≠ separator) {parts : List (List α)}
    (h : splitOn separator rest = part :: parts) :
    splitOn separator (c :: rest) = (c :: part) :: parts := by
  rw [splitOn, if_neg other, h]

theorem splitOn_of_not_mem (apart : separator ∉ part) : splitOn separator part = [part] := by
  induction part with
  | nil => rfl
  | cons c part ih =>
    obtain ⟨other, apart⟩ := List.ne_and_not_mem_of_not_mem_cons apart
    exact splitOn_cons_of_ne other.symm (ih apart)

/-- A separator falls between what is before and what is behind it. -/
theorem splitOn_append_separator (text rest : List α) :
    splitOn separator (text ++ separator :: rest) =
      splitOn separator text ++ splitOn separator rest := by
  induction text with
  | nil => simp [splitOn]
  | cons c text ih =>
    obtain ⟨part, parts, split⟩ := List.exists_cons_of_ne_nil (splitOn_ne_nil separator text)
    rw [split] at ih
    by_cases same : c = separator
    · simp [splitOn, same, ih, split]
    · rw [splitOn_cons_of_ne same split]
      exact splitOn_cons_of_ne same ih

/-- Parts of which each but the first stands behind a separator. -/
theorem splitOn_flatMap {first : List α} {parts : List (List α)}
    (apart : ∀ part ∈ first :: parts, separator ∉ part) :
    splitOn separator (first ++ parts.flatMap (separator :: ·)) = first :: parts := by
  induction parts generalizing first with
  | nil => simpa using splitOn_of_not_mem (apart first List.mem_cons_self)
  | cons next parts ih =>
    obtain ⟨here, others⟩ := List.forall_mem_cons.1 apart
    rw [List.flatMap_cons, List.cons_append, splitOn_append_separator, splitOn_of_not_mem here,
      ih others, List.singleton_append]

/-- No part holds the separator, and the parts hold nothing that the text does not. -/
theorem mem_splitOn (h : part ∈ splitOn separator text) : separator ∉ part ∧ part ⊆ text := by
  induction text generalizing part with
  | nil =>
    obtain rfl : part = [] := by simpa [splitOn] using h
    simp
  | cons c rest ih =>
    rw [splitOn] at h
    split at h
    · obtain rfl | h := List.mem_cons.1 h
      · simp
      · obtain ⟨apart, inside⟩ := ih h
        exact ⟨apart, fun d hd => List.mem_cons_of_mem c (inside hd)⟩
    · next other =>
      split at h
      · next none => exact absurd none (splitOn_ne_nil separator rest)
      · next first parts more =>
        obtain rfl | h := List.mem_cons.1 h
        · obtain ⟨apart, inside⟩ := ih (more ▸ List.mem_cons_self)
          refine ⟨?_, List.cons_subset_cons c inside⟩
          simpa using ⟨Ne.symm other, apart⟩
        · obtain ⟨apart, inside⟩ := ih (more ▸ List.mem_cons_of_mem first h)
          exact ⟨apart, fun d hd => List.mem_cons_of_mem c (inside hd)⟩

end Tendermint.Url
