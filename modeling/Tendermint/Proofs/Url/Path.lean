import Tendermint.Proofs.Url.Percent
import Tendermint.Proofs.Url.Separator
import Tendermint.Url.Basic

/-!
# Tendermint.Proofs.Url.Path

The path of a URL with a special scheme. Its dots are resolved once: no segment that stays in a
path stands for the directory itself or the one above, so the path is its own normal form.

* `IsPath`, `isPath_normalPath`: the paths there are.
* `normalPath_eq_self`: they stay as they are.
-/

namespace Tendermint.Url

variable {segment text path : List Char} {kept parts : List (List Char)} {c : Char}

/-- A segment of a path. -/
structure IsSegment (segment : List Char) : Prop where
  shown : Shown pathSet segment
  slash : '/' ∉ segment
  backslash : '\\' ∉ segment
  single : isSingleDot segment = false
  double : isDoubleDot segment = false

/-- A path of a special scheme. -/
def IsPath (path : List Char) : Prop :=
  ∃ parts : List (List Char), parts ≠ [] ∧ (∀ segment ∈ parts, IsSegment segment) ∧
    path = parts.flatMap ('/' :: ·)

theorem isSegment_nil : IsSegment [] where
  shown := nofun
  slash := nofun
  backslash := nofun
  single := by decide
  double := by decide

/-! ## Dots -/

theorem mem_leave (h : segment ∈ leave kept) : segment ∈ kept := by
  cases kept with
  | nil => cases h
  | cons last rest =>
    rw [leave] at h
    split at h
    · exact h
    · exact List.mem_cons_of_mem last h

/-- Segments that are no dots stay as they are. -/
theorem resolve_segments (segments : ∀ segment ∈ parts, IsSegment segment) :
    resolve kept parts = kept.reverse ++ parts := by
  induction parts generalizing kept with
  | nil => simp [resolve]
  | cons segment rest ih =>
    obtain ⟨here, others⟩ := List.forall_mem_cons.1 segments
    cases rest with
    | nil => simp [resolve, here.single, here.double]
    | cons next rest => simp [resolve, here.single, here.double, ih others]

/-- What is left of some parts are those of them that are no dots. -/
theorem isSegment_resolve (before : ∀ segment ∈ kept, IsSegment segment)
    (segments : ∀ segment ∈ parts, isSingleDot segment = false → isDoubleDot segment = false →
      IsSegment segment) :
    ∀ segment ∈ resolve kept parts, IsSegment segment := by
  have ends (last : List Char) (parts : List (List Char)) (here : IsSegment last)
      (others : ∀ segment ∈ parts, IsSegment segment) :
      ∀ segment ∈ (last :: parts).reverse, IsSegment segment := by
    intro segment inside
    rw [List.mem_reverse, List.mem_cons] at inside
    exact inside.elim (fun same => same ▸ here) (others segment)
  have above (parts : List (List Char)) (all : ∀ segment ∈ parts, IsSegment segment) :
      ∀ segment ∈ leave parts, IsSegment segment := fun segment inside =>
    all segment (mem_leave inside)
  fun_induction resolve kept parts with
  | case1 kept => simpa using before
  | case2 kept last double => exact ends _ _ isSegment_nil (above kept before)
  | case3 kept last double single => exact ends _ _ isSegment_nil before
  | case4 kept last double single =>
    have here := segments last List.mem_cons_self (by simpa using single) (by simpa using double)
    exact ends _ _ here before
  | case5 kept segment rest more double ih =>
    exact ih (above kept before) fun segment inside =>
      segments segment (List.mem_cons_of_mem _ inside)
  | case6 kept segment rest more double single ih =>
    exact ih before fun segment inside => segments segment (List.mem_cons_of_mem _ inside)
  | case7 kept segment rest more double single ih =>
    have here := segments segment List.mem_cons_self (by simpa using single) (by simpa using double)
    exact ih (List.forall_mem_cons.2 ⟨here, before⟩) fun segment inside =>
      segments segment (List.mem_cons_of_mem _ inside)

theorem resolve_ne_nil (some : parts ≠ []) : resolve kept parts ≠ [] := by
  fun_induction resolve kept parts with
  | case1 => exact absurd rfl some
  | case2 | case3 | case4 => simp
  | case5 kept segment rest more double ih => exact ih more
  | case6 kept segment rest more double single ih => exact ih more
  | case7 kept segment rest more double single ih => exact ih more

/-! ## Segments -/

theorem segments_ne_nil (special : Bool) (text : List Char) : segments special text ≠ [] := by
  simp [segments, splitOn_ne_nil]

/-- A segment of a text is a segment of a path unless it stands for a directory. -/
theorem isSegment_of_mem_segments (inside : segment ∈ segments true text)
    (single : isSingleDot segment = false) (double : isDoubleDot segment = false) :
    IsSegment segment := by
  rw [segments, if_pos rfl, List.mem_map] at inside
  obtain ⟨part, inside, rfl⟩ := inside
  obtain ⟨slash, within⟩ := mem_splitOn inside
  have swapped : '\\' ∉ text.map fun c => if c = '\\' then '/' else c := by
    intro mark
    obtain ⟨c, -, same⟩ := List.mem_map.1 mark
    split at same
    · cases same
    · contradiction
  have backslash : '\\' ∉ part := by
    intro mark
    have mark := within mark
    split at mark
    · next rest whole => exact swapped (whole ▸ List.mem_cons_of_mem '/' mark)
    · exact swapped mark
  have encoded (c : Char) (outside : c ∉ part) (other : c ≠ '%' ∧ ¬ (48 ≤ c.toNat ∧ c.toNat ≤ 57) ∧
      ¬ (65 ≤ c.toNat ∧ c.toNat ≤ 70)) : c ∉ encode pathSet part := by
    intro inside
    obtain inside | same | figure | letter := mem_encode inside
    · exact outside inside
    · exact other.1 same
    · exact other.2.1 figure
    · exact other.2.2 letter
  exact ⟨shown_encode settled_pathSet part, encoded '/' slash (by decide),
    encoded '\\' backslash (by decide), single, double⟩

theorem isPath_normalPath (text : List Char) : IsPath (normalPath true text) := by
  refine ⟨resolve [] (segments true text), resolve_ne_nil (segments_ne_nil true text), ?_, ?_⟩
  · exact isSegment_resolve nofun fun segment => isSegment_of_mem_segments
  · simp [normalPath]

/-- A path is its own normal form. -/
theorem normalPath_eq_self (path : IsPath text) : normalPath true text = text := by
  obtain ⟨parts, some, all, rfl⟩ := path
  obtain ⟨first, rest, rfl⟩ := List.exists_cons_of_ne_nil some
  have slashed : (((first :: rest).flatMap ('/' :: ·)).map fun c => if c = '\\' then '/' else c) =
      (first :: rest).flatMap ('/' :: ·) := by
    refine Text.map_eq_self fun c inside => if_neg ?_
    rintro rfl
    obtain ⟨segment, member, inside⟩ := List.mem_flatMap.1 inside
    obtain mark | mark := List.mem_cons.1 inside
    · cases mark
    · exact (all segment member).backslash mark
  have encoded : (first :: rest).map (encode pathSet) = first :: rest :=
    Text.map_eq_self fun segment inside => encode_of_shown (all segment inside).shown
  have cut : segments true ((first :: rest).flatMap ('/' :: ·)) = first :: rest := by
    have apart : splitOn '/' (first ++ rest.flatMap ('/' :: ·)) = first :: rest :=
      splitOn_flatMap fun segment inside => (all segment inside).slash
    rw [segments, if_pos rfl, slashed]
    exact (congrArg (List.map (encode pathSet)) apart).trans encoded
  rw [normalPath, cut, resolve_segments all]
  simp

/-- Neither a query nor a fragment begins inside a path. -/
theorem mem_path (path : IsPath text) (h : c ∈ text) :
    (33 ≤ c.toNat ∧ c.toNat < 127) ∧ c ≠ '?' ∧ c ≠ '#' := by
  obtain ⟨parts, -, all, rfl⟩ := path
  obtain ⟨segment, member, inside⟩ := List.mem_flatMap.1 h
  obtain rfl | inside := List.mem_cons.1 inside
  · decide
  · have shown := (all segment member).shown
    refine ⟨visible_of_shown (by decide) shown c inside, ?_, ?_⟩ <;> rintro rfl <;>
      exact (shown _ inside).2.2 (by decide)

theorem IsPath.eq_cons (path : IsPath text) : ∃ rest, text = '/' :: rest := by
  obtain ⟨parts, some, -, rfl⟩ := path
  obtain ⟨first, rest, rfl⟩ := List.exists_cons_of_ne_nil some
  exact ⟨_, rfl⟩

end Tendermint.Url
