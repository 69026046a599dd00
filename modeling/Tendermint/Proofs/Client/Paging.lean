import Mathlib.Data.List.Forall2
import Tendermint.Client.Paging
import Tendermint.Client.Script
import Tendermint.Proofs.Answer.Tx
import Tendermint.Proofs.Json.Fields

/-!
# Tendermint.Proofs.Client.Paging

A search over all pages is complete. Against a node that lists its matches page by page the search
comes back with every match once and in order, after one request for each page that exists.

* `Params.AsksPage`: what a request for a page says.
* `Client.ListsPages`: a node that answers such requests; of other pages nothing is assumed.
* `Client.run_searchFrom`: what a search does from some page on.
* `search_is_complete`.
-/

namespace Tendermint

/-! ## Requests for a page -/

/-- What a request for a page of a search says. -/
structure Params.AsksPage (query : Query) (prove : Bool) (perPage page : Nat) (params : Params) :
    Prop where
  query : params.lookup "query" = some (.string query.text)
  prove : params.lookup "prove" = some (.bool prove)
  page : params.lookup "page" = some (.nat page)
  perPage : params.lookup "per_page" = some (.nat perPage)

theorem Params.asksPage_txSearch (search : TxSearch) (page perPage : UInt32) :
    AsksPage search.query search.prove perPage.toNat page.toNat
      (txSearch { search with page := some page, perPage := some perPage }) := by
  constructor <;>
    simp [txSearch, given, Json.Members.ofList, Json.Members.lookup_insert]

/-- The transport, and a record of the requests that it was given. -/
def Exchange.recorded {σ : Type} (execute : Method → Params → σ → Except RpcError Json × σ)
    (method : Method) (params : Params) (s : σ × List (Method × Params)) :
    Except RpcError Json × σ × List (Method × Params) :=
  let (answer, next) := execute method params s.1
  (answer, next, s.2 ++ [(method, params)])

namespace Client

/-! ## Pages -/

/-- How many pages there are; the first one exists even without matches. -/
def pageCount (count perPage : Nat) : Nat := max 1 ((count + perPage - 1) / perPage)

/-- The matches on a page; pages are counted from one. -/
def matchesOn (found : List TxRecord) (perPage page : Nat) : List TxRecord :=
  (found.drop ((page - 1) * perPage)).take perPage

/-- A node that lists its matches page by page, in every state that it may be in. -/
def ListsPages {σ : Type} (client : Client) (search : TxSearch) (perPage : Nat)
    (found : List TxRecord) (execute : Method → Params → σ → Except RpcError Json × σ) : Prop :=
  ∀ page, 1 ≤ page → page ≤ pageCount found.length perPage →
    ∀ params, params.AsksPage search.query search.prove perPage page → ∀ s, ∃ result answer,
      (execute .txSearch params s).1 = .ok result ∧
      (TxMatches.schema client.dialect).read result = .ok answer ∧
      answer.totalCount.toNat = found.length ∧ answer.txs = matchesOn found perPage page

section Pages

variable {found : List TxRecord} {perPage page : Nat}

theorem take_append_matchesOn (first : 1 ≤ page) :
    found.take ((page - 1) * perPage) ++ matchesOn found perPage page =
      found.take (page * perPage) := by
  obtain ⟨before, rfl⟩ := Nat.exists_eq_add_of_le' first
  rw [matchesOn, Nat.add_sub_cancel, Nat.add_mul, Nat.one_mul, ← List.take_add]

theorem mul_lt_length (sized : 0 < perPage) (first : 1 ≤ page)
    (more : page < pageCount found.length perPage) : page * perPage < found.length := by
  have inside : page < (found.length + perPage - 1) / perPage := by
    rw [pageCount] at more
    omega
  have := Nat.mul_le_of_le_div perPage (page + 1) _ inside
  rw [Nat.add_mul] at this
  omega

theorem length_le_mul (sized : 0 < perPage) :
    found.length ≤ pageCount found.length perPage * perPage := by
  have whole := Nat.div_add_mod (found.length + perPage - 1) perPage
  have rest := Nat.mod_lt (found.length + perPage - 1) sized
  have enough : (found.length + perPage - 1) / perPage * perPage ≤
      pageCount found.length perPage * perPage :=
    Nat.mul_le_mul_right perPage (Nat.le_max_right ..)
  rw [Nat.mul_comm] at whole
  omega

theorem matchesOn_ne_nil (inside : (page - 1) * perPage < found.length) (sized : 0 < perPage) :
    matchesOn found perPage page ≠ [] := by
  have some : 0 < (matchesOn found perPage page).length := by
    rw [matchesOn, List.length_take, List.length_drop]
    omega
  exact List.ne_nil_of_length_pos some

/-- The search ends with the last page and not before. -/
theorem isLastPage_iff {answer : TxMatches} (sized : 0 < perPage) (first : 1 ≤ page)
    (within : page ≤ pageCount found.length perPage)
    (counted : answer.totalCount.toNat = found.length)
    (listed : answer.txs = matchesOn found perPage page) :
    isLastPage answer (found.take (page * perPage)) = true ↔
      page = pageCount found.length perPage := by
  rw [isLastPage, Bool.or_eq_true, decide_eq_true_eq, counted, List.length_take, listed]
  constructor
  · intro last
    by_contra other
    have inside : page * perPage < found.length := mul_lt_length sized first (by omega)
    have before : (page - 1) * perPage ≤ page * perPage :=
      Nat.mul_le_mul_right perPage (Nat.sub_le page 1)
    obtain none | all := last
    · exact matchesOn_ne_nil (Nat.lt_of_le_of_lt before inside) sized (List.isEmpty_iff.1 none)
    · omega
  · rintro rfl
    have : found.length ≤ pageCount found.length perPage * perPage := length_le_mul sized
    right
    omega

end Pages

/-! ## The search -/

section Search

variable {σ : Type} {client : Client} {search : TxSearch} {perPage : UInt32}
  {found : List TxRecord} {execute : Method → Params → σ → Except RpcError Json × σ}

/-- What a search does with the answer to a request. -/
theorem run_searchFrom_answer {page : UInt32} {found : List TxRecord} {s : σ} {result : Json}
    {answer : TxMatches}
    (executed : (execute .txSearch (Params.txSearch { search with page := some page }) s).1 =
      .ok result)
    (read : (TxMatches.schema client.dialect).read result = .ok answer) (fuel : Nat)
    (sent : List (Method × Params)) :
    (searchFrom client search (fuel + 1) page found).run (Exchange.recorded execute) (s, sent) =
      let params := Params.txSearch { search with page := some page }
      let next := ((execute .txSearch params s).2, sent ++ [(.txSearch, params)])
      if isLastPage answer (found ++ answer.txs) then
        (.ok ⟨answer.totalCount, found ++ answer.txs⟩, next)
      else
        (searchFrom client search fuel (page + 1) (found ++ answer.txs)).run
          (Exchange.recorded execute) next := by
  rw [searchFrom, Exchange.run]
  simp only [Exchange.recorded]
  rw [executed]
  dsimp only
  rw [read]
  dsimp only
  split <;> rfl

/-- One page: the search ends with it, or goes on with the next one. -/
theorem run_searchFrom_succ (node : client.ListsPages search perPage.toNat found execute)
    (sized : 0 < perPage.toNat) {page : UInt32} (first : 1 ≤ page.toNat)
    (within : page.toNat ≤ pageCount found.length perPage.toNat) (fuel : Nat) (s : σ)
    (sent : List (Method × Params)) :
    ∃ next params, params.AsksPage search.query search.prove perPage.toNat page.toNat ∧
      (searchFrom client { search with perPage := some perPage } (fuel + 1) page
          (found.take ((page.toNat - 1) * perPage.toNat))).run (Exchange.recorded execute) (s, sent) =
        if page.toNat = pageCount found.length perPage.toNat then
          (.ok ⟨UInt64.ofNat found.length, found⟩, next, sent ++ [(.txSearch, params)])
        else
          (searchFrom client { search with perPage := some perPage } fuel (page + 1)
              (found.take (page.toNat * perPage.toNat))).run (Exchange.recorded execute)
            (next, sent ++ [(.txSearch, params)]) := by
  let params := Params.txSearch { search with page := some page, perPage := some perPage }
  have asks := Params.asksPage_txSearch search page perPage
  obtain ⟨result, answer, executed, read, counted, listed⟩ := node _ first within params asks s
  refine ⟨(execute .txSearch params s).2, params, asks, ?_⟩
  have last := isLastPage_iff sized first within counted listed
  have total : UInt64.ofNat found.length = answer.totalCount := by
    rw [← counted, UInt64.ofNat_toNat]
  rw [run_searchFrom_answer executed read]
  dsimp only
  rw [listed, take_append_matchesOn first, total]
  by_cases done : page.toNat = pageCount found.length perPage.toNat
  · have all : found.take (page.toNat * perPage.toNat) = found := by
      rw [done]
      exact List.take_of_length_le (length_le_mul sized)
    rw [if_pos (last.2 done), if_pos done, all]
  · rw [if_neg (mt last.1 done), if_neg done]

/-- From some page on the search asks for that page and all that are left, one after the other. -/
theorem run_searchFrom (node : client.ListsPages search perPage.toNat found execute)
    (sized : 0 < perPage.toNat) (few : pageCount found.length perPage.toNat < UInt32.size)
    {left fuel : Nat} (enough : left < fuel) {page : UInt32} (first : 1 ≤ page.toNat)
    (ahead : page.toNat + left = pageCount found.length perPage.toNat) (s : σ)
    (sent : List (Method × Params)) :
    ∃ next asked,
      (searchFrom client { search with perPage := some perPage } fuel page
          (found.take ((page.toNat - 1) * perPage.toNat))).run (Exchange.recorded execute) (s, sent) =
        (.ok ⟨UInt64.ofNat found.length, found⟩, next, sent ++ asked) ∧
      List.Forall₂ (fun page request => request.1 = .txSearch ∧
        request.2.AsksPage search.query search.prove perPage.toNat page)
        (List.range' page.toNat (left + 1)) asked := by
  obtain _ | fuel := fuel
  · cases enough
  induction left generalizing fuel page s sent with
  | zero =>
    obtain ⟨next, params, asks, ran⟩ :=
      run_searchFrom_succ node sized first (Nat.le_of_eq ahead) fuel s sent
    rw [if_pos (show page.toNat = _ from ahead)] at ran
    exact ⟨next, _, ran, .cons ⟨rfl, asks⟩ .nil⟩
  | succ left ih =>
    have more : page.toNat ≠ pageCount found.length perPage.toNat := by omega
    obtain ⟨next, params, asks, ran⟩ :=
      run_searchFrom_succ node sized first (by omega) fuel s sent
    rw [if_neg more] at ran
    obtain _ | fuel := fuel
    · omega
    -- The number of the next page still fits.
    have after : (page + 1).toNat = page.toNat + 1 := by
      rw [UInt32.toNat_add]
      exact Nat.mod_eq_of_lt (by rw [UInt32.toNat_one]; simp only [UInt32.size] at few; omega)
    obtain ⟨last, asked, rest, each⟩ := ih (show 1 ≤ (page + 1).toNat by omega) (by omega) next
      (sent ++ [(.txSearch, params)]) fuel (by omega)
    rw [after, Nat.add_sub_cancel] at rest
    rw [after] at each
    refine ⟨last, (.txSearch, params) :: asked, ?_, .cons ⟨rfl, asks⟩ each⟩
    rw [ran, rest, List.append_assoc]
    rfl

end Search

end Client

/-- How many matches a page of a search has. -/
def TxSearch.pageSize (search : TxSearch) : Nat :=
  (search.perPage.getD Client.defaultPageSize).toNat

/-- A search over all pages is complete. Against a node that lists its matches page by page, the
search from the first page on ends with all of them, once and in order, and with their count. It
asks for each page that exists once, in turn, always with the same query, proof flag and page size,
and for no other page. -/
theorem search_is_complete {σ : Type} (client : Client) (search : TxSearch)
    (found : List TxRecord) (execute : Method → Params → σ → Except RpcError Json × σ) (s : σ)
    (first : search.page = none ∨ search.page = some 1) (sized : 1 ≤ search.pageSize)
    (few : Client.pageCount found.length search.pageSize < UInt32.size)
    (node : client.ListsPages search search.pageSize found execute) :
    ∃ outcome next asked,
      (client.searchAll search).run (Exchange.recorded execute) (s, []) =
        (.ok outcome, next, asked) ∧
      outcome.totalCount.toNat = found.length ∧ outcome.txs = found ∧
      List.Forall₂ (fun page request => request.1 = .txSearch ∧
        request.2.AsksPage search.query search.prove search.pageSize page)
        (List.range' 1 (Client.pageCount found.length search.pageSize)) asked := by
  have some : 1 ≤ Client.pageCount found.length search.pageSize := Nat.le_max_left ..
  have start : search.page.getD 1 = 1 := by
    obtain none | one := first
    · rw [none]
      rfl
    · rw [one]
      rfl
  have fits : found.length < UInt64.size := by
    have small : search.pageSize < UInt32.size := UInt32.toNat_lt _
    calc found.length
        ≤ Client.pageCount found.length search.pageSize * search.pageSize :=
          Client.length_le_mul sized
      _ < UInt32.size * UInt32.size := Nat.mul_lt_mul'' few small
      _ = UInt64.size := rfl
  have enough : Client.pageCount found.length search.pageSize - 1 < UInt64.size := by
    have : UInt32.size ≤ UInt64.size := by decide
    omega
  have ahead : (1 : UInt32).toNat + (Client.pageCount found.length search.pageSize - 1) =
      Client.pageCount found.length search.pageSize := by
    rw [UInt32.toNat_one]
    omega
  obtain ⟨next, asked, ran, each⟩ :=
    Client.run_searchFrom node sized few enough (Nat.le_of_eq UInt32.toNat_one.symm) ahead s []
  refine ⟨⟨UInt64.ofNat found.length, found⟩, next, asked, ?_,
    UInt64.toNat_ofNat_of_lt' fits, rfl, ?_⟩
  · rw [UInt32.toNat_one, Nat.sub_self, Nat.zero_mul, List.take_zero] at ran
    rw [Client.searchAll, start]
    exact ran
  · rwa [Nat.sub_add_cancel some] at each

section Sample

/-- A node that lists some matches in pages, as JSON. -/
def TxMatches.listing (found : List TxRecord) (perPage : Nat) (method : Method) (params : Params)
    (_ : Unit) : Except RpcError Json × Unit :=
  match params.lookup "page" with
  | some (.number (.integer page)) =>
    (.ok (TxMatches.write .terse
      ⟨UInt64.ofNat found.length, Client.matchesOn found perPage page.toNat⟩), ())
  | _ => (.error (Script.unknownMethod method.name), ())

theorem TxMatches.listing_listsPages (search : TxSearch) (found : List TxRecord) (perPage : Nat)
    (small : found.length < UInt64.size) :
    Client.ListsPages ⟨.v0_25⟩ search perPage found (listing found perPage) := by
  intro page first within params asks s
  unfold listing
  rw [asks.page]
  refine ⟨_, ⟨UInt64.ofNat found.length, Client.matchesOn found perPage page⟩, rfl,
    TxMatches.decode_write .terse _ _, UInt64.toNat_ofNat_of_lt' small, rfl⟩

/-- Three transactions, at heights ten to twelve. -/
def TxRecord.three : List TxRecord :=
  [10, 11, 12].map fun height => ⟨[], ⟨0, none, none, none⟩, height, 0, ⟨[]⟩, none⟩

/-- Three matches in pages of two are found with two requests. -/
theorem three_matches_are_found :
    ∃ outcome next asked,
      (Client.searchAll ⟨.v0_25⟩ ⟨.empty, false, none, some 2⟩).run
        (Exchange.recorded (TxMatches.listing TxRecord.three 2)) ((), []) =
          (.ok outcome, next, asked) ∧
      outcome.totalCount.toNat = 3 ∧ outcome.txs = TxRecord.three ∧
      List.Forall₂ (fun page request => request.1 = .txSearch ∧
        request.2.AsksPage .empty false 2 page) [1, 2] asked :=
  search_is_complete ⟨.v0_25⟩ ⟨.empty, false, none, some 2⟩ TxRecord.three _ () (.inl rfl) (by decide)
    (by decide) (TxMatches.listing_listsPages _ _ 2 (by decide))

end Sample

end Tendermint
