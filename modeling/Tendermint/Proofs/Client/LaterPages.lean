import Tendermint.Proofs.Client.Paging

/-!
# Tendermint.Proofs.Client.LaterPages

A search over all pages that does not start with the first one. It counts only what it has found
itself, so before it reaches the count of the node it goes past the last page. An empty page ends
it there; a node that answers with its last page again is asked for it until the count is made up,
and the matches of that page come back as often.

* `Client.AnswersPage`: what a node answers to a request for one page.
* `Client.run_searchFrom_until`: a search runs up to the page that ends it.
* `Client.pagesFrom_eq`: the pages that are there, and what stands past them.
* `search_from_later_page`.
-/

namespace Tendermint

/-- The page that a search over all pages starts with. -/
def TxSearch.firstPage (search : TxSearch) : Nat := (search.page.getD 1).toNat

namespace Client

/-! ## Any pages -/

/-- A node that answers requests for a page with some matches, in every state that it may be in.
With an empty page nothing is said about the count. -/
def AnswersPage {σ : Type} (client : Client) (search : TxSearch) (perPage count : Nat)
    (execute : Method → Params → σ → Except RpcError Json × σ) (page : Nat)
    (txs : List TxRecord) : Prop :=
  ∀ params, params.AsksPage search.query search.prove perPage page → ∀ s, ∃ result answer,
    (execute .txSearch params s).1 = .ok result ∧
    (TxMatches.schema client.dialect).read result = .ok answer ∧
    answer.txs = txs ∧ (txs ≠ [] → answer.totalCount.toNat = count)

/-- What some pages have together. -/
def pagesFrom (pages : Nat → List TxRecord) (start count : Nat) : List TxRecord :=
  (List.range' start count).flatMap pages

theorem pagesFrom_succ (pages : Nat → List TxRecord) (start count : Nat) :
    pagesFrom pages start (count + 1) = pages start ++ pagesFrom pages (start + 1) count := by
  rw [pagesFrom, List.range'_succ, List.flatMap_cons, pagesFrom]

theorem pagesFrom_one (pages : Nat → List TxRecord) (start : Nat) :
    pagesFrom pages start 1 = pages start := by
  rw [pagesFrom_succ]
  exact List.append_nil _

theorem pagesFrom_add (pages : Nat → List TxRecord) (start first more : Nat) :
    pagesFrom pages start (first + more) =
      pagesFrom pages start first ++ pagesFrom pages (start + first) more := by
  rw [pagesFrom, pagesFrom, pagesFrom, ← List.flatMap_append, List.range'_append_1]

theorem length_pagesFrom_le (pages : Nat → List TxRecord) (start : Nat) {some all : Nat}
    (fewer : some ≤ all) :
    (pagesFrom pages start some).length ≤ (pagesFrom pages start all).length := by
  obtain ⟨more, rfl⟩ := Nat.exists_eq_add_of_le fewer
  rw [pagesFrom_add, List.length_append]
  omega

section Search

variable {σ : Type} {client : Client} {search : TxSearch} {perPage : UInt32} {count : Nat}
  {execute : Method → Params → σ → Except RpcError Json × σ} {pages : Nat → List TxRecord}

/-- One page: the search ends with it, or goes on with the next one. -/
theorem run_searchFrom_page {page : UInt32}
    (answers : client.AnswersPage search perPage.toNat count execute page.toNat
      (pages page.toNat)) (fuel : Nat) (found : List TxRecord) (s : σ)
    (sent : List (Method × Params)) :
    ∃ total next params, params.AsksPage search.query search.prove perPage.toNat page.toNat ∧
      (searchFrom client { search with perPage := some perPage } (fuel + 1) page found).run
          (Exchange.recorded execute) (s, sent) =
        if pages page.toNat = [] ∨ count ≤ (found ++ pages page.toNat).length then
          (.ok ⟨total, found ++ pages page.toNat⟩, next, sent ++ [(.txSearch, params)])
        else
          (searchFrom client { search with perPage := some perPage } fuel (page + 1)
              (found ++ pages page.toNat)).run (Exchange.recorded execute)
            (next, sent ++ [(.txSearch, params)]) := by
  let params := Params.txSearch { search with page := some page, perPage := some perPage }
  have asks := Params.asksPage_txSearch search page perPage
  obtain ⟨result, answer, executed, read, listed, counted⟩ := answers params asks s
  refine ⟨answer.totalCount, (execute .txSearch params s).2, params, asks, ?_⟩
  have last : isLastPage answer (found ++ answer.txs) = true ↔
      answer.txs = [] ∨ count ≤ (found ++ answer.txs).length := by
    rw [isLastPage, Bool.or_eq_true, decide_eq_true_eq, List.isEmpty_iff]
    by_cases none : answer.txs = []
    · simp only [none, true_or]
    · rw [counted (listed ▸ none)]
  rw [run_searchFrom_answer executed read]
  dsimp only
  rw [← listed]
  by_cases done : answer.txs = [] ∨ count ≤ (found ++ answer.txs).length
  · rw [if_pos (last.2 done), if_pos done]
  · rw [if_neg (mt last.1 done), if_neg done]

/-- A search asks for page after page up to the first one that is empty or makes up the count. -/
theorem run_searchFrom_until (pages : Nat → List TxRecord) {left fuel : Nat}
    (enough : left < fuel) (page : UInt32) (fits : page.toNat + left < UInt32.size)
    (found : List TxRecord)
    (answers : ∀ i ≤ left, client.AnswersPage search perPage.toNat count execute
      (page.toNat + i) (pages (page.toNat + i)))
    (goesOn : ∀ i < left, pages (page.toNat + i) ≠ [] ∧
      (found ++ pagesFrom pages page.toNat (i + 1)).length < count)
    (ends : pages (page.toNat + left) = [] ∨
      count ≤ (found ++ pagesFrom pages page.toNat (left + 1)).length)
    (s : σ) (sent : List (Method × Params)) :
    ∃ total next asked,
      (searchFrom client { search with perPage := some perPage } fuel page found).run
          (Exchange.recorded execute) (s, sent) =
        (.ok ⟨total, found ++ pagesFrom pages page.toNat (left + 1)⟩, next, sent ++ asked) ∧
      List.Forall₂ (fun page request => request.1 = .txSearch ∧
        request.2.AsksPage search.query search.prove perPage.toNat page)
        (List.range' page.toNat (left + 1)) asked := by
  obtain _ | fuel := fuel
  · cases enough
  induction left generalizing fuel page found s sent with
  | zero =>
    obtain ⟨total, next, params, asks, ran⟩ :=
      run_searchFrom_page (answers 0 (Nat.le_refl 0)) fuel found s sent
    rw [Nat.zero_add, pagesFrom_one] at ends ⊢
    rw [if_pos (show pages page.toNat = [] ∨ _ from ends)] at ran
    exact ⟨total, next, _, ran, .cons ⟨rfl, asks⟩ .nil⟩
  | succ left ih =>
    obtain ⟨some, less⟩ := goesOn 0 (Nat.succ_pos left)
    obtain ⟨_, next, params, asks, ran⟩ :=
      run_searchFrom_page (answers 0 (Nat.zero_le _)) fuel found s sent
    rw [Nat.zero_add, pagesFrom_one] at less
    rw [Nat.add_zero] at some
    rw [if_neg (not_or_intro some (Nat.not_le_of_lt less))] at ran
    obtain _ | fuel := fuel
    · omega
    -- The number of the next page still fits.
    have after : (page + 1).toNat = page.toNat + 1 := by
      rw [UInt32.toNat_add]
      exact Nat.mod_eq_of_lt (by rw [UInt32.toNat_one]; simp only [UInt32.size] at fits; omega)
    have shift (i : Nat) : (page + 1).toNat + i = page.toNat + (i + 1) := by omega
    have joined (i : Nat) : (found ++ pages page.toNat) ++ pagesFrom pages (page + 1).toNat i =
        found ++ pagesFrom pages page.toNat (i + 1) := by
      rw [pagesFrom_succ, after, List.append_assoc]
    obtain ⟨total, last, asked, rest, each⟩ := ih (page + 1) (by omega)
      (found ++ pages page.toNat)
      (fun i inside => shift i ▸ answers (i + 1) (by omega))
      (fun i inside => by
        rw [joined, shift]
        exact goesOn (i + 1) (by omega))
      (by rwa [joined, shift]) next (sent ++ [(.txSearch, params)]) fuel (by omega)
    rw [joined] at rest
    rw [after] at each
    refine ⟨total, last, (.txSearch, params) :: asked, ?_, .cons ⟨rfl, asks⟩ each⟩
    rw [ran, rest, List.append_assoc]
    rfl

end Search

/-! ## The pages that exist, and those past them -/

/-- The matches on the pages of a node that answers requests past the last one with `past`. -/
def pagesWith (found : List TxRecord) (perPage : Nat) (past : List TxRecord) (page : Nat) :
    List TxRecord :=
  if page ≤ pageCount found.length perPage then matchesOn found perPage page else past

/-- How often a search that starts with some page is answered with `past` before it has as many
matches as there are. -/
def again (found : List TxRecord) (perPage : Nat) (past : List TxRecord) (start : Nat) : Nat :=
  (min ((start - 1) * perPage) found.length + past.length - 1) / past.length

/-- The last page that a search asks for. Unless it starts with the first page, it goes past those
that exist. -/
def lastAsked (found : List TxRecord) (perPage : Nat) (past : List TxRecord) (start : Nat) : Nat :=
  if start = 1 then pageCount found.length perPage
  else max start (pageCount found.length perPage + 1) + (again found perPage past start - 1)

/-- The matches from some page on; if there is no such page, those that stand past the last one. -/
def matchesFrom (found : List TxRecord) (perPage : Nat) (past : List TxRecord) (start : Nat) :
    List TxRecord :=
  if start ≤ pageCount found.length perPage then found.drop ((start - 1) * perPage) else past

section Pages

variable {found past : List TxRecord} {perPage start : Nat}

/-- The pages that exist have the matches one after the other. -/
theorem pagesFrom_inside (first : 1 ≤ start) {count : Nat}
    (inside : start + count ≤ pageCount found.length perPage + 1) :
    pagesFrom (pagesWith found perPage past) start count =
      (found.drop ((start - 1) * perPage)).take (count * perPage) := by
  induction count generalizing start with
  | zero => rw [Nat.zero_mul, List.take_zero]; rfl
  | succ count ih =>
    have next : (start + 1 - 1) * perPage = (start - 1) * perPage + perPage := by
      rw [← Nat.succ_mul]
      congr 1
      omega
    rw [pagesFrom_succ, ih (by omega) (by omega), pagesWith, if_pos (by omega), matchesOn, next,
      ← List.drop_drop, Nat.succ_mul, Nat.add_comm (count * perPage), List.take_add]

/-- Past them there is always the same. -/
theorem pagesFrom_past (beyond : pageCount found.length perPage < start) (count : Nat) :
    pagesFrom (pagesWith found perPage past) start count =
      (List.replicate count past).flatten := by
  induction count generalizing start with
  | zero => rfl
  | succ count ih =>
    rw [pagesFrom_succ, ih (by omega), pagesWith, if_neg (by omega), List.replicate_succ,
      List.flatten_cons]

theorem pagesFrom_eq (sized : 0 < perPage) (first : 1 ≤ start) (more : Nat) :
    pagesFrom (pagesWith found perPage past) start
        (pageCount found.length perPage + 1 - start + more) =
      found.drop ((start - 1) * perPage) ++ (List.replicate more past).flatten := by
  have every : found.length ≤ pageCount found.length perPage * perPage := length_le_mul sized
  have reached : pageCount found.length perPage <
      start + (pageCount found.length perPage + 1 - start) := by omega
  rw [pagesFrom_add, pagesFrom_past reached]
  congr 1
  obtain beyond | inside := Nat.lt_or_ge (pageCount found.length perPage) start
  · have : pageCount found.length perPage * perPage ≤ (start - 1) * perPage :=
      Nat.mul_le_mul_right perPage (by omega)
    rw [show pageCount found.length perPage + 1 - start = 0 by omega,
      List.drop_of_length_le (by omega)]
    rfl
  · rw [pagesFrom_inside first (by omega)]
    refine List.take_of_length_le ?_
    have split : pageCount found.length perPage * perPage =
        (start - 1) * perPage + (pageCount found.length perPage + 1 - start) * perPage := by
      rw [← Nat.add_mul]
      congr 1
      omega
    rw [List.length_drop]
    omega

/-! ### How often the same comes back -/

theorem length_le_again_mul (some : past ≠ []) :
    min ((start - 1) * perPage) found.length ≤ again found perPage past start * past.length := by
  have whole := Nat.div_add_mod
    (min ((start - 1) * perPage) found.length + past.length - 1) past.length
  have rest := Nat.mod_lt (min ((start - 1) * perPage) found.length + past.length - 1)
    (List.length_pos_of_ne_nil some)
  rw [Nat.mul_comm past.length] at whole
  rw [again]
  omega

theorem again_pred_mul_lt (missed : 0 < min ((start - 1) * perPage) found.length) :
    (again found perPage past start - 1) * past.length <
      min ((start - 1) * perPage) found.length := by
  have le := Nat.div_mul_le_self
    (min ((start - 1) * perPage) found.length + past.length - 1) past.length
  rw [Nat.sub_mul, Nat.one_mul, again]
  omega

theorem again_nil : again found perPage [] start = 0 :=
  Nat.div_zero _

theorem again_first : again found perPage past 1 = 0 := by
  rw [again, Nat.sub_self, Nat.zero_mul, Nat.zero_min, Nat.zero_add]
  obtain none | some := Nat.eq_zero_or_pos past.length
  · rw [none, Nat.div_zero]
  · exact Nat.div_eq_of_lt (Nat.sub_lt some Nat.one_pos)

theorem one_le_again (some : past ≠ []) (missed : 0 < min ((start - 1) * perPage) found.length) :
    1 ≤ again found perPage past start := by
  by_contra none
  have le : min ((start - 1) * perPage) found.length ≤
      again found perPage past start * past.length := length_le_again_mul some
  rw [show again found perPage past start = 0 by omega, Nat.zero_mul] at le
  omega

/-! ### Where a search ends -/

theorem length_drop_append (more : Nat) :
    (found.drop ((start - 1) * perPage) ++ (List.replicate more past).flatten).length =
      found.length - (start - 1) * perPage + more * past.length := by
  rw [List.length_append, List.length_drop, List.length_flatten, List.map_replicate,
    List.sum_replicate_nat]

theorem start_le_lastAsked : start ≤ lastAsked found perPage past start := by
  have some : 1 ≤ pageCount found.length perPage := Nat.le_max_left ..
  rw [lastAsked]
  split <;> omega

/-- What is past the last page is empty or that page again. -/
def PastPages (found : List TxRecord) (perPage : Nat) (past : List TxRecord) : Prop :=
  past = [] ∨ past = matchesOn found perPage (pageCount found.length perPage)

theorem PastPages.length_pos (kind : PastPages found perPage past) (some : past ≠ []) :
    0 < found.length := by
  obtain rfl | rfl := kind
  · cases some rfl
  · by_contra none
    rw [List.length_eq_zero_iff.1 (Nat.eq_zero_of_not_pos none)] at some
    exact some (by rw [matchesOn, List.drop_nil, List.take_nil])

/-- All the pages that a search asks for. -/
theorem pagesFrom_lastAsked (sized : 0 < perPage) (first : 1 ≤ start)
    (kind : PastPages found perPage past) :
    pagesFrom (pagesWith found perPage past) start
        (lastAsked found perPage past start + 1 - start) =
      found.drop ((start - 1) * perPage) ++
        (List.replicate (again found perPage past start) past).flatten := by
  obtain rfl | later := Nat.eq_or_lt_of_le first
  · rw [lastAsked, if_pos rfl, again_first]
    exact pagesFrom_eq sized first 0
  · have missed : 0 < (start - 1) * perPage := Nat.mul_pos (by omega) sized
    by_cases none : past = []
    · subst none
      rw [lastAsked, if_neg (by omega), again_nil,
        show max start (pageCount found.length perPage + 1) + (0 - 1) + 1 - start =
          pageCount found.length perPage + 1 - start + 1 by omega, pagesFrom_eq sized first]
      rfl
    · have some : 1 ≤ again found perPage past start :=
        one_le_again none (Nat.lt_min.2 ⟨missed, kind.length_pos none⟩)
      rw [lastAsked, if_neg (by omega),
        show max start (pageCount found.length perPage + 1) + (again found perPage past start - 1) +
            1 - start =
          pageCount found.length perPage + 1 - start + again found perPage past start by omega,
        pagesFrom_eq sized first]

/-- With the last page the search ends. -/
theorem ends_at_lastAsked (sized : 0 < perPage) (first : 1 ≤ start)
    (kind : PastPages found perPage past) :
    pagesWith found perPage past (lastAsked found perPage past start) = [] ∨
      found.length ≤ (pagesFrom (pagesWith found perPage past) start
        (lastAsked found perPage past start + 1 - start)).length := by
  rw [pagesFrom_lastAsked sized first kind, length_drop_append]
  obtain rfl | later := Nat.eq_or_lt_of_le first
  · right
    rw [Nat.sub_self, Nat.zero_mul]
    omega
  · by_cases none : past = []
    · left
      rw [pagesWith, lastAsked, if_neg (show start ≠ 1 by omega), if_neg (by omega), none]
    · have : min ((start - 1) * perPage) found.length ≤
          again found perPage past start * past.length := length_le_again_mul none
      right
      omega

/-- Before the last page the count is not made up. -/
theorem length_before_lastAsked (sized : 0 < perPage) (first : 1 ≤ start)
    (kind : PastPages found perPage past) (more : start < lastAsked found perPage past start) :
    (pagesFrom (pagesWith found perPage past) start
      (lastAsked found perPage past start - start)).length < found.length := by
  obtain rfl | later := Nat.eq_or_lt_of_le first
  · rw [lastAsked, if_pos rfl] at more ⊢
    have : (pageCount found.length perPage - 1) * perPage < found.length :=
      mul_lt_length sized (by omega) (by omega)
    rw [pagesFrom_inside first (by omega), List.length_take, List.length_drop]
    omega
  · rw [lastAsked, if_neg (by omega)] at more ⊢
    have missed : 0 < (start - 1) * perPage := Nat.mul_pos (by omega) sized
    have some : 0 < found.length := by
      by_cases none : past = []
      · have : (pageCount found.length perPage - 1) * perPage < found.length := by
          subst none
          rw [again_nil] at more
          exact mul_lt_length sized (by omega) (by omega)
        omega
      · exact kind.length_pos none
    have : (again found perPage past start - 1) * past.length <
        min ((start - 1) * perPage) found.length := again_pred_mul_lt (Nat.lt_min.2 ⟨missed, some⟩)
    rw [show max start (pageCount found.length perPage + 1) + (again found perPage past start - 1) -
        start = pageCount found.length perPage + 1 - start + (again found perPage past start - 1) by
      omega, pagesFrom_eq sized first, length_drop_append]
    omega

/-- And no page before it is empty. -/
theorem pagesWith_ne_nil (sized : 0 < perPage) (first : 1 ≤ start) {page : Nat}
    (onwards : start ≤ page) (before : page < lastAsked found perPage past start) :
    pagesWith found perPage past page ≠ [] := by
  rw [pagesWith]
  split
  case isTrue inside =>
    refine matchesOn_ne_nil ?_ sized
    obtain rfl | later := Nat.eq_or_lt_of_le (Nat.le_trans first onwards)
    · rw [lastAsked, if_pos (by omega)] at before
      have : 1 * perPage < found.length := mul_lt_length sized (Nat.le_refl 1) before
      omega
    · exact mul_lt_length sized (by omega) (by omega)
  case isFalse beyond =>
    rintro rfl
    rw [lastAsked, again_nil] at before
    split at before <;> omega

/-! ### What a search should find -/

theorem length_lastPage (sized : 0 < perPage) :
    (matchesOn found perPage (pageCount found.length perPage)).length =
      found.length - (pageCount found.length perPage - 1) * perPage := by
  have : found.length ≤ pageCount found.length perPage * perPage := length_le_mul sized
  have some : 1 ≤ pageCount found.length perPage := Nat.le_max_left ..
  rw [matchesOn, List.length_take, List.length_drop, Nat.sub_mul]
  omega

/-- Past a single page the search is answered with it once. -/
theorem again_single (sized : 0 < perPage) (later : 1 < start) (some : past ≠ [])
    (kind : PastPages found perPage past) (single : pageCount found.length perPage = 1) :
    again found perPage past start = 1 := by
  have any : 0 < found.length := kind.length_pos some
  have missed : 0 < (start - 1) * perPage := Nat.mul_pos (by omega) sized
  have whole : past.length = found.length := by
    rw [kind.resolve_left some, length_lastPage sized, single, Nat.sub_self, Nat.zero_mul,
      Nat.sub_zero]
  have less : (again found perPage past start - 1) * past.length <
      min ((start - 1) * perPage) found.length := again_pred_mul_lt (Nat.lt_min.2 ⟨missed, any⟩)
  have once : again found perPage past start - 1 < 1 := by
    rw [whole, Nat.min_def] at less
    exact Nat.lt_of_mul_lt_mul_right (show _ < 1 * found.length by split at less <;> omega)
  have := one_le_again some (Nat.lt_min.2 ⟨missed, any⟩)
  omega

theorem length_le_of_past (sized : 0 < perPage)
    (beyond : pageCount found.length perPage < start) :
    found.length ≤ (start - 1) * perPage :=
  Nat.le_trans (length_le_mul sized) (Nat.mul_le_mul_right perPage (by omega))

/-- From the first page on nothing comes back, and what stands past a single page does so once. -/
theorem drop_append_eq_matchesFrom (sized : 0 < perPage) (first : 1 ≤ start)
    (kind : PastPages found perPage past)
    (plain : past = [] ∨ start = 1 ∨ pageCount found.length perPage = 1) :
    found.drop ((start - 1) * perPage) ++
        (List.replicate (again found perPage past start) past).flatten =
      matchesFrom found perPage past start := by
  have some : 1 ≤ pageCount found.length perPage := Nat.le_max_left ..
  obtain beyond | inside := Nat.lt_or_ge (pageCount found.length perPage) start
  · rw [matchesFrom, if_neg (by omega), List.drop_of_length_le (length_le_of_past sized beyond),
      List.nil_append]
    by_cases none : past = []
    · rw [none, again_nil]
      rfl
    · have single := (plain.resolve_left none).resolve_left (by omega)
      rw [again_single sized (by omega) none kind single, List.replicate_one,
        List.flatten_singleton]
  · have never : (List.replicate (again found perPage past start) past).flatten = [] := by
      obtain rfl | one | single := plain
      · rw [again_nil]
        rfl
      · rw [one, again_first]
        rfl
      · rw [show start = 1 by omega, again_first]
        rfl
    rw [matchesFrom, if_pos inside, never, List.append_nil]

/-- A search finds what there is from its first page on, unless that is a later one, there are
several pages and the last one comes back. -/
theorem drop_append_eq_matchesFrom_iff (sized : 0 < perPage) (first : 1 ≤ start)
    (kind : PastPages found perPage past) :
    found.drop ((start - 1) * perPage) ++
        (List.replicate (again found perPage past start) past).flatten =
      matchesFrom found perPage past start ↔
      past = [] ∨ start = 1 ∨ pageCount found.length perPage = 1 := by
  refine ⟨fun same => ?_, drop_append_eq_matchesFrom sized first kind⟩
  by_contra plain
  obtain ⟨some, later, several⟩ : past ≠ [] ∧ start ≠ 1 ∧ pageCount found.length perPage ≠ 1 := by
    simpa only [not_or] using plain
  have missed : 0 < min ((start - 1) * perPage) found.length :=
    Nat.lt_min.2 ⟨Nat.mul_pos (by omega) sized, kind.length_pos some⟩
  have sizes := congrArg List.length same
  rw [length_drop_append, matchesFrom] at sizes
  obtain beyond | inside := Nat.lt_or_ge (pageCount found.length perPage) start
  · -- The last page would have all the matches, but those of the first page are not on it.
    have : found.length ≤ (start - 1) * perPage := length_le_of_past sized beyond
    have : min ((start - 1) * perPage) found.length ≤
        again found perPage past start * past.length := length_le_again_mul some
    have last : past.length = found.length - (pageCount found.length perPage - 1) * perPage := by
      rw [kind.resolve_left some, length_lastPage sized]
    have : 1 ≤ pageCount found.length perPage := Nat.le_max_left ..
    have : 0 < (pageCount found.length perPage - 1) * perPage := Nat.mul_pos (by omega) sized
    rw [if_neg (by omega)] at sizes
    omega
  · have : 0 < again found perPage past start * past.length :=
      Nat.mul_pos (one_le_again some missed) (List.length_pos_of_ne_nil some)
    rw [if_pos inside, List.length_drop] at sizes
    omega

end Pages

/-! ## The search -/

section Search

variable {σ : Type} {client : Client} {search : TxSearch} {perPage : Nat}
  {found past : List TxRecord} {execute : Method → Params → σ → Except RpcError Json × σ}

theorem ListsPages.answersPage (node : client.ListsPages search perPage found execute)
    (beyond : ∀ page, pageCount found.length perPage < page →
      client.AnswersPage search perPage found.length execute page past) {page : Nat}
    (first : 1 ≤ page) :
    client.AnswersPage search perPage found.length execute page
      (pagesWith found perPage past page) := by
  rw [pagesWith]
  split
  case isTrue inside =>
    intro params asks s
    obtain ⟨result, answer, executed, read, counted, listed⟩ := node page first inside params asks s
    exact ⟨result, answer, executed, read, listed, fun _ => counted⟩
  case isFalse outside => exact beyond page (Nat.lt_of_not_le outside)

/-- What a search finds, and which pages it asks for. -/
theorem run_searchAll (first : 1 ≤ search.firstPage) (sized : 1 ≤ search.pageSize)
    (few : lastAsked found search.pageSize past search.firstPage < UInt32.size)
    (node : client.ListsPages search search.pageSize found execute)
    (beyond : ∀ page, pageCount found.length search.pageSize < page →
      client.AnswersPage search search.pageSize found.length execute page past)
    (kind : PastPages found search.pageSize past) (s : σ) :
    ∃ total next asked,
      (client.searchAll search).run (Exchange.recorded execute) (s, []) =
        (.ok ⟨total, found.drop ((search.firstPage - 1) * search.pageSize) ++
          (List.replicate (again found search.pageSize past search.firstPage) past).flatten⟩,
          next, asked) ∧
      List.Forall₂ (fun page request => request.1 = .txSearch ∧
        request.2.AsksPage search.query search.prove search.pageSize page)
        (List.range' search.firstPage
          (lastAsked found search.pageSize past search.firstPage + 1 - search.firstPage))
        asked := by
  unfold searchAll TxSearch.firstPage TxSearch.pageSize at *
  generalize search.page.getD 1 = page at *
  generalize search.perPage.getD defaultPageSize = perPage at *
  have after : page.toNat ≤ lastAsked found perPage.toNat past page.toNat := start_le_lastAsked
  have all := pagesFrom_lastAsked sized first kind
  have ends := ends_at_lastAsked sized first kind
  obtain ⟨left, last⟩ := Nat.exists_eq_add_of_le after
  have count : lastAsked found perPage.toNat past page.toNat + 1 - page.toNat = left + 1 := by omega
  rw [count] at all ends ⊢
  rw [last] at ends
  rw [← all]
  refine run_searchFrom_until (pagesWith found perPage.toNat past) ?_ page (by omega) []
    (fun i _ => node.answersPage beyond (Nat.le_trans first (Nat.le_add_right ..))) ?_ ends s []
  · have : UInt32.size ≤ UInt64.size := by decide
    omega
  · intro i before
    refine ⟨pagesWith_ne_nil sized first (Nat.le_add_right ..) (by omega), ?_⟩
    have less := length_before_lastAsked sized first kind (by omega)
    rw [show lastAsked found perPage.toNat past page.toNat - page.toNat = left by omega] at less
    exact Nat.lt_of_le_of_lt (length_pagesFrom_le _ _ before) less

end Search

end Client

/-- A search over all pages from a later one. Against a node that lists its matches page by page and
answers requests past the last page with nothing or with that page again, the search ends with the
matches from its first page on, and after them with what stands past the last page, as often as it
takes to have as many as there are matches. So it finds what there is from its first page on, and
past the last page what the node has there, exactly if the node answers with empty pages, the search
starts with the first page, or there is only one. It asks for each page number once, in turn. -/
theorem search_from_later_page {σ : Type} (client : Client) (search : TxSearch)
    (found past : List TxRecord) (execute : Method → Params → σ → Except RpcError Json × σ) (s : σ)
    (first : 1 ≤ search.firstPage) (sized : 1 ≤ search.pageSize)
    (few : Client.lastAsked found search.pageSize past search.firstPage < UInt32.size)
    (node : client.ListsPages search search.pageSize found execute)
    (beyond : ∀ page, Client.pageCount found.length search.pageSize < page →
      client.AnswersPage search search.pageSize found.length execute page past)
    (kind : Client.PastPages found search.pageSize past) :
    ∃ outcome next asked,
      (client.searchAll search).run (Exchange.recorded execute) (s, []) =
        (.ok outcome, next, asked) ∧
      outcome.txs = found.drop ((search.firstPage - 1) * search.pageSize) ++
        (List.replicate (Client.again found search.pageSize past search.firstPage) past).flatten ∧
      (outcome.txs = Client.matchesFrom found search.pageSize past search.firstPage ↔
        past = [] ∨ search.firstPage = 1 ∨ Client.pageCount found.length search.pageSize = 1) ∧
      List.Forall₂ (fun page request => request.1 = .txSearch ∧
        request.2.AsksPage search.query search.prove search.pageSize page)
        (List.range' search.firstPage
          (Client.lastAsked found search.pageSize past search.firstPage + 1 - search.firstPage))
        asked := by
  obtain ⟨total, next, asked, ran, each⟩ :=
    Client.run_searchAll first sized few node beyond kind s
  refine ⟨⟨total, _⟩, next, asked, ran, rfl, ?_, each⟩
  exact Client.drop_append_eq_matchesFrom_iff sized first kind

section Sample

/-- A node that lists some matches in pages and has something to say past the last one, as JSON. -/
def TxMatches.listingWith (found past : List TxRecord) (perPage : Nat) (method : Method)
    (params : Params) (_ : Unit) : Except RpcError Json × Unit :=
  match params.lookup "page" with
  | some (.number (.integer page)) =>
    (.ok (TxMatches.write .terse
      ⟨UInt64.ofNat found.length, Client.pagesWith found perPage past page.toNat⟩), ())
  | _ => (.error (Script.unknownMethod method.name), ())

/-- A search that starts with the second page of two matches each. -/
def TxSearch.second : TxSearch := ⟨.empty, false, some 2, some 2⟩

variable (found past : List TxRecord) (perPage : Nat)

theorem TxMatches.listingWith_page (search : TxSearch) (small : found.length < UInt64.size)
    {page : Nat} {params : Params}
    (asks : params.AsksPage search.query search.prove perPage page) (s : Unit) :
    ∃ result answer, (listingWith found past perPage .txSearch params s).1 = .ok result ∧
      (schema (Client.mk .v0_25).dialect).read result = .ok answer ∧
      answer.totalCount.toNat = found.length ∧
      answer.txs = Client.pagesWith found perPage past page := by
  unfold listingWith
  rw [asks.page]
  exact ⟨_, ⟨UInt64.ofNat found.length, Client.pagesWith found perPage past page⟩, rfl,
    decode_write .terse _ _, UInt64.toNat_ofNat_of_lt' small, rfl⟩

theorem TxMatches.listingWith_listsPages (search : TxSearch) (small : found.length < UInt64.size) :
    Client.ListsPages ⟨.v0_25⟩ search perPage found (listingWith found past perPage) := by
  intro page first within params asks s
  obtain ⟨result, answer, executed, read, counted, listed⟩ :=
    listingWith_page found past perPage search small asks s
  exact ⟨result, answer, executed, read, counted, listed.trans (if_pos within)⟩

theorem TxMatches.listingWith_past (search : TxSearch) (small : found.length < UInt64.size)
    (page : Nat) (beyond : Client.pageCount found.length perPage < page) :
    Client.AnswersPage ⟨.v0_25⟩ search perPage found.length (listingWith found past perPage) page
      past := by
  intro params asks s
  obtain ⟨result, answer, executed, read, counted, listed⟩ :=
    listingWith_page found past perPage search small asks s
  exact ⟨result, answer, executed, read, listed.trans (if_neg (Nat.not_le_of_lt beyond)),
    fun _ => counted⟩

/-- Of three matches in pages of two, the one on the second page is found by a search that starts
there, once if an empty page follows and three times if the page comes back. -/
theorem second_page_of_three :
    (∃ outcome next asked,
      (Client.searchAll ⟨.v0_25⟩ .second).run
        (Exchange.recorded (TxMatches.listingWith TxRecord.three [] 2)) ((), []) =
          (.ok outcome, next, asked) ∧
      outcome.txs = TxRecord.three.drop 2 ++ [] ∧
      (outcome.txs = TxRecord.three.drop 2 ↔ ([] : List TxRecord) = [] ∨ 2 = 1 ∨ 2 = 1) ∧
      List.Forall₂ (fun page request => request.1 = .txSearch ∧
        request.2.AsksPage .empty false 2 page) [2, 3] asked) ∧
    ∃ outcome next asked,
      (Client.searchAll ⟨.v0_25⟩ .second).run
        (Exchange.recorded (TxMatches.listingWith TxRecord.three (TxRecord.three.drop 2) 2))
          ((), []) = (.ok outcome, next, asked) ∧
      outcome.txs = TxRecord.three.drop 2 ++ (TxRecord.three.drop 2 ++ TxRecord.three.drop 2) ∧
      (outcome.txs = TxRecord.three.drop 2 ↔ TxRecord.three.drop 2 = [] ∨ 2 = 1 ∨ 2 = 1) ∧
      List.Forall₂ (fun page request => request.1 = .txSearch ∧
        request.2.AsksPage .empty false 2 page) [2, 3, 4] asked :=
  ⟨search_from_later_page ⟨.v0_25⟩ .second TxRecord.three [] _ () (by decide)
      (by decide) (by decide) (TxMatches.listingWith_listsPages _ _ _ _ (by decide))
      (TxMatches.listingWith_past _ _ _ _ (by decide)) (.inl rfl),
    search_from_later_page ⟨.v0_25⟩ .second TxRecord.three
      (TxRecord.three.drop 2) _ () (by decide) (by decide) (by decide)
      (TxMatches.listingWith_listsPages _ _ _ _ (by decide))
      (TxMatches.listingWith_past _ _ _ _ (by decide)) (.inr rfl)⟩

/-- So the search for it does not end with what there is: the match comes back twice. -/
theorem last_page_comes_back :
    Client.ListsPages ⟨.v0_25⟩ .second 2 TxRecord.three
      (TxMatches.listingWith TxRecord.three (TxRecord.three.drop 2) 2) ∧
    (∀ page, Client.pageCount 3 2 < page → Client.AnswersPage ⟨.v0_25⟩ .second 2 3
      (TxMatches.listingWith TxRecord.three (TxRecord.three.drop 2) 2) page
      (Client.matchesOn TxRecord.three 2 (Client.pageCount 3 2))) ∧
    TxRecord.three.Nodup ∧
    ∃ outcome next asked,
      (Client.searchAll ⟨.v0_25⟩ .second).run (Exchange.recorded
        (TxMatches.listingWith TxRecord.three (TxRecord.three.drop 2) 2)) ((), []) =
          (.ok outcome, next, asked) ∧
      outcome.txs ≠ Client.matchesFrom TxRecord.three 2 (TxRecord.three.drop 2) 2 ∧
      ¬ outcome.txs.Nodup := by
  have lists :=
    TxMatches.listingWith_listsPages TxRecord.three (TxRecord.three.drop 2) 2 .second (by decide)
  have beyond :=
    TxMatches.listingWith_past TxRecord.three (TxRecord.three.drop 2) 2 .second (by decide)
  obtain ⟨total, next, asked, ran, -⟩ :=
    Client.run_searchAll (by decide) (by decide) (by decide) lists beyond (.inr rfl) ()
  refine ⟨lists, beyond, by decide, ⟨total, _⟩, next, asked, ran, ?_, ?_⟩
  · dsimp only
    decide
  · dsimp only
    decide

end Sample

end Tendermint
