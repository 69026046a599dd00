import Mathlib.Data.List.Basic
import Tendermint.Cli.Run

/-!
# Tendermint.Proofs.Wire.Query

Queries form a monoid: joining is associative, and the empty query says nothing. A filter is written
all at once, with its conditions in a row; the same query comes of joining the queries of its
conditions one after the other, as no condition is written as the empty text.

* `TxFilter.parts`: the conditions of a filter, as filters of their own.
* `TxFilter.query_eq_foldl`: the query of a filter is that of its parts, joined.
* `TxFilter.query_eq_empty`: only the filter without conditions has the empty query.
* `queries_form_a_monoid`.
-/

namespace Tendermint

namespace Query

variable {left right : Query}

theorem isEmpty_iff {query : Query} : query.isEmpty = true ↔ query = empty := by
  obtain ⟨text⟩ := query
  simp [isEmpty, empty]

@[simp] theorem empty_and (query : Query) : empty.and query = query := by
  rw [and, if_pos (isEmpty_iff.2 rfl)]

@[simp] theorem and_empty (query : Query) : query.and empty = query := by
  rw [and]
  split
  · next none => exact (isEmpty_iff.1 none).symm
  · rw [if_pos (isEmpty_iff.2 rfl)]

theorem and_of_ne (some : left ≠ empty) (some' : right ≠ empty) :
    left.and right = ⟨left.text ++ conjunction ++ right.text⟩ := by
  rw [and, if_neg (mt isEmpty_iff.1 some), if_neg (mt isEmpty_iff.1 some')]

/-- Joining never loses what is there. -/
theorem and_eq_empty : left.and right = empty ↔ left = empty ∧ right = empty := by
  constructor
  · intro none
    by_cases hl : left = empty
    · subst hl
      exact ⟨rfl, by simpa using none⟩
    · by_cases hr : right = empty
      · subst hr
        exact absurd (by simpa using none) hl
      · rw [and_of_ne hl hr] at none
        simp [empty, conjunction] at none
  · rintro ⟨rfl, rfl⟩
    simp

theorem and_assoc (first second third : Query) :
    (first.and second).and third = first.and (second.and third) := by
  by_cases h₁ : first = empty
  · simp [h₁]
  by_cases h₂ : second = empty
  · simp [h₂]
  by_cases h₃ : third = empty
  · simp [h₃]
  have left : first.and second ≠ empty := fun none => h₁ (and_eq_empty.1 none).1
  have right : second.and third ≠ empty := fun none => h₃ (and_eq_empty.1 none).2
  rw [and_of_ne left h₃, and_of_ne h₁ right, and_of_ne h₁ h₂, and_of_ne h₂ h₃]
  simp [String.append_assoc]

instance : Std.Associative Query.and := ⟨and_assoc⟩

theorem intercalate_ne_empty {first : String} (some : first ≠ "") (rest : List String) :
    String.intercalate conjunction (first :: rest) ≠ "" := by
  cases rest with
  | nil => simpa using some
  | cons second rest => simp [conjunction]

/-- The first of some texts in a row, joined with the others. -/
theorem intercalate_cons {first : String} {rest : List String}
    (some : ∀ text ∈ first :: rest, text ≠ "") :
    (⟨String.intercalate conjunction (first :: rest)⟩ : Query) =
      and ⟨first⟩ ⟨String.intercalate conjunction rest⟩ := by
  obtain ⟨here, others⟩ := List.forall_mem_cons.1 some
  cases rest with
  | nil =>
    have nothing : (⟨String.intercalate conjunction []⟩ : Query) = empty := rfl
    rw [nothing, and_empty, String.intercalate_singleton]
  | cons second rest =>
    have more := intercalate_ne_empty (others second List.mem_cons_self) rest
    rw [and_of_ne (by simpa [empty] using here) (by simpa [empty] using more),
      String.intercalate_cons_of_ne_nil (List.cons_ne_nil second rest)]

/-- Texts in a row are their queries joined one after the other. -/
theorem intercalate_eq_foldl {texts : List String} (some : ∀ text ∈ texts, text ≠ "") :
    (⟨String.intercalate conjunction texts⟩ : Query) =
      (texts.map Query.mk).foldl Query.and empty := by
  induction texts with
  | nil => rfl
  | cons first rest ih =>
    have others := (List.forall_mem_cons.1 some).2
    calc (⟨String.intercalate conjunction (first :: rest)⟩ : Query)
        = and ⟨first⟩ ((rest.map Query.mk).foldl Query.and empty) := by
          rw [intercalate_cons some, ih others]
      _ = (rest.map Query.mk).foldl Query.and (and ⟨first⟩ empty) := List.foldl_assoc.symm
      _ = ((first :: rest).map Query.mk).foldl Query.and empty := by
          rw [and_empty, List.map_cons, List.foldl_cons, empty_and]

end Query

namespace TxFilter

variable {filter : TxFilter}

/-- The conditions of a filter, each as a filter of its own. -/
def parts (filter : TxFilter) : List TxFilter :=
  filter.tags.map (fun tag => { none with tags := [tag] }) ++
    (filter.height.map fun height => { none with height }).toList ++
    (filter.minHeight.map fun minHeight => { none with minHeight }).toList ++
    (filter.maxHeight.map fun maxHeight => { none with maxHeight }).toList ++
    (filter.hash.map fun hash => { none with hash }).toList

theorem quotedCondition_ne_empty (key value : String) : quotedCondition key value ≠ "" := by
  simp [quotedCondition]

theorem heightCondition_ne_empty (operator : String) (height : UInt64) :
    heightCondition operator height ≠ "" := by
  simp [heightCondition]

theorem conditions_ne_empty (filter : TxFilter) : ∀ text ∈ filter.conditions, text ≠ "" := by
  intro text condition
  simp only [conditions, List.mem_append, List.mem_map, Option.mem_toList, Option.map_eq_some_iff]
    at condition
  obtain (((⟨tag, -, rfl⟩ | ⟨height, -, rfl⟩) | ⟨height, -, rfl⟩) | ⟨height, -, rfl⟩) |
    ⟨hash, -, rfl⟩ := condition
  · exact quotedCondition_ne_empty tag.key tag.value
  · exact heightCondition_ne_empty "=" height
  · exact heightCondition_ne_empty ">" height
  · exact heightCondition_ne_empty "<" height
  · exact quotedCondition_ne_empty "tx.hash" hash.text

/-- Each part is written as the condition that it has. -/
theorem map_query_parts (filter : TxFilter) :
    filter.parts.map query = filter.conditions.map Query.mk := by
  obtain ⟨tags, height, minHeight, maxHeight, hash⟩ := filter
  cases height <;> cases minHeight <;> cases maxHeight <;> cases hash <;>
    simp [parts, conditions, query, none]

theorem query_eq_foldl (filter : TxFilter) :
    filter.query = (filter.parts.map query).foldl Query.and .empty := by
  rw [map_query_parts]
  exact Query.intercalate_eq_foldl filter.conditions_ne_empty

theorem query_tags_append (xs ys : List TagCondition) :
    query { none with tags := xs ++ ys } =
      (query { none with tags := xs }).and (query { none with tags := ys }) := by
  have parts_tags (tags : List TagCondition) :
      parts { none with tags } = tags.map fun tag => { none with tags := [tag] } := by
    simp [parts, none]
  simp only [query_eq_foldl, parts_tags, List.map_append, List.foldl_append]
  rw [← @List.foldl_assoc _ Query.and, Query.and_empty]

/-- Only a filter without conditions asks for nothing. -/
theorem query_eq_empty : filter.query = .empty ↔ filter = none := by
  constructor
  · intro nothing
    have texts : filter.conditions = [] := by
      cases texts : filter.conditions with
      | nil => rfl
      | cons first rest =>
        have here := filter.conditions_ne_empty first (texts ▸ List.mem_cons_self)
        have text := congrArg Query.text nothing
        rw [query, texts] at text
        exact absurd text (Query.intercalate_ne_empty here rest)
    obtain ⟨tags, height, minHeight, maxHeight, hash⟩ := filter
    simpa [conditions, none, and_assoc] using texts
  · rintro rfl
    rfl

theorem isEmpty_query : filter.query.isEmpty = true ↔ filter = none := by
  rw [Query.isEmpty_iff, query_eq_empty]

end TxFilter

/-- A filter narrows a subscription down by its query, if it has a condition. -/
theorem EventKind.queryWith_query (kind : EventKind) (filter : TxFilter) :
    (filter = .none → kind.queryWith filter.query = kind.query) ∧
    (filter ≠ .none → kind.queryWith filter.query =
      ⟨kind.query.text ++ Query.conjunction ++ filter.query.text⟩) := by
  constructor
  · rintro rfl
    exact Query.and_empty kind.query
  · intro some
    refine Query.and_of_ne ?_ (mt TxFilter.query_eq_empty.1 some)
    cases kind <;> decide

namespace Cli

variable {filter : TxFilter}

/-- What a search without conditions is told. -/
theorem work_search_none (client : Client) (streaming : Bool) (page perPage : Option UInt32)
    (all : Bool) :
    work client streaming (.search .none page perPage all) =
      .done (.failed (.plain "search needs at least one --tag or height filter")) :=
  rfl

theorem work_search (client : Client) (streaming : Bool) (some : filter ≠ .none)
    (page perPage : Option UInt32) (all : Bool) :
    ∃ search next, search.query = filter.query ∧
      work client streaming (.search filter page perPage all) =
        .call .txSearch (Params.txSearch search) next := by
  rw [work]
  dsimp only
  rw [if_neg (mt TxFilter.isEmpty_query.1 some)]
  cases all
  · exact ⟨_, _, rfl, rfl⟩
  · exact ⟨_, _, rfl, rfl⟩

end Cli

/-- Queries form a monoid. Joining them is associative, and the empty query changes nothing on
either side. The query of a filter is that of its conditions one by one, joined from the empty query
on: its tags in order, its height, its least and its greatest height, and its hash. So the tags of
two filters in a row have the queries of both, joined; and the query is empty exactly if the filter
has no condition. A search without conditions is refused for that before anything is sent, and one
with conditions sends its query; a subscription without conditions takes all events of its kind, and
one with conditions has their query beside that of its kind. -/
theorem queries_form_a_monoid :
    (∀ first second third : Query, (first.and second).and third = first.and (second.and third)) ∧
    (∀ query : Query, Query.empty.and query = query ∧ query.and .empty = query) ∧
    (∀ filter : TxFilter,
      filter.query = (filter.parts.map TxFilter.query).foldl Query.and .empty) ∧
    (∀ xs ys, TxFilter.query { TxFilter.none with tags := xs ++ ys } =
      (TxFilter.query { TxFilter.none with tags := xs }).and
        (TxFilter.query { TxFilter.none with tags := ys })) ∧
    ∀ filter : TxFilter, (filter.query = .empty ↔ filter = .none) ∧
      (∀ client streaming page perPage all,
        (filter = .none → Cli.work client streaming (.search filter page perPage all) =
          .done (.failed (.plain "search needs at least one --tag or height filter"))) ∧
        (filter ≠ .none → ∃ search next, search.query = filter.query ∧
          Cli.work client streaming (.search filter page perPage all) =
            .call .txSearch (Params.txSearch search) next)) ∧
      ∀ kind : EventKind, (filter = .none → kind.queryWith filter.query = kind.query) ∧
        (filter ≠ .none → kind.queryWith filter.query =
          ⟨kind.query.text ++ Query.conjunction ++ filter.query.text⟩) := by
  refine ⟨Query.and_assoc, fun query => ⟨Query.empty_and query, Query.and_empty query⟩,
    TxFilter.query_eq_foldl, TxFilter.query_tags_append, fun filter => ⟨TxFilter.query_eq_empty,
    fun client streaming page perPage all => ⟨?_, ?_⟩, fun kind => kind.queryWith_query filter⟩⟩
  · rintro rfl
    exact Cli.work_search_none client streaming page perPage all
  · exact fun some => Cli.work_search client streaming some page perPage all

/-- A filter with two conditions. -/
def TxFilter.two : TxFilter := { none with tags := [⟨"app.key", "abc"⟩], minHeight := some 5 }

/-- It is searched and subscribed for with both of them, and a filter with none is not searched
for. -/
theorem two_conditions_are_asked_for :
    TxFilter.two ≠ .none ∧ TxFilter.two.query = ⟨"app.key='abc' AND tx.height>5"⟩ ∧
    (∃ search next, search.query = TxFilter.two.query ∧
      Cli.work ⟨.v0_25⟩ false (.search .two none none true) =
        .call .txSearch (Params.txSearch search) next) ∧
    (Cli.work ⟨.v0_25⟩ false (.search .none none none true) =
      .done (.failed (.plain "search needs at least one --tag or height filter"))) ∧
    EventKind.tx.queryWith TxFilter.two.query =
      ⟨"tm.event='Tx'" ++ " AND " ++ TxFilter.two.query.text⟩ ∧
    EventKind.tx.queryWith TxFilter.none.query = EventKind.tx.query := by
  obtain ⟨-, -, -, -, filters⟩ := queries_form_a_monoid
  obtain ⟨-, searched, subscribed⟩ := filters .two
  obtain ⟨-, refused, all⟩ := filters .none
  have some : TxFilter.two ≠ .none := by decide
  exact ⟨some, by decide, (searched _ _ _ _ _).2 some, (refused _ _ _ _ _).1 rfl,
    (subscribed .tx).2 some, (all .tx).1 rfl⟩

end Tendermint
