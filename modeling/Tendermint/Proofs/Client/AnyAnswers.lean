import Mathlib.Data.Nat.Find
import Tendermint.Proofs.Client.LaterPages

/-!
# Tendermint.Proofs.Client.AnyAnswers

A search over all pages, whatever the node answers. Its pages may be of any length, its counts may
change from one answer to the next, and it may fail. The search asks for page after page up to the
first answer that ends it, and that there is one follows from the counts: every page before it
brings a transaction, so that the count of the node is reached in the end.

* `Client.received`, `Client.EndsAt`, `Client.outcomeAt`: what some answers in a row have, which of
  them ends a search, and what the search comes to.
* `Client.count_le_of_goesOn`, `Client.exists_end`: a search ends, and how soon.
* `Client.run_searchFrom_answers`: what a search does.
* `search_meets_any_answers`.
-/

namespace Tendermint

namespace Client

/-! ## Answers in a row -/

section Answers

variable {answers : Nat → Except ClientError TxMatches} {i n bound : Nat}

/-- The transactions of an answer. -/
def txsOf : Except ClientError TxMatches → List TxRecord
  | .ok page => page.txs
  | .error _ => []

/-- The transactions of the first so many answers. -/
def received (answers : Nat → Except ClientError TxMatches) (count : Nat) : List TxRecord :=
  (List.range count).flatMap fun i => txsOf (answers i)

theorem received_succ (answers : Nat → Except ClientError TxMatches) (count : Nat) :
    received answers (count + 1) = received answers count ++ txsOf (answers count) := by
  rw [received, List.range_succ, List.flatMap_append, List.flatMap_singleton, received]

/-- An answer that ends a search: an error, an empty page, or one with whose transactions there are
as many as it counts. -/
def EndsAt (answers : Nat → Except ClientError TxMatches) (i : Nat) : Prop :=
  match answers i with
  | .error _ => True
  | .ok page => page.txs = [] ∨ page.totalCount.toNat ≤ (received answers (i + 1)).length

/-- What a search comes to that one of the answers ends: its error, or all transactions up to it and
its count. -/
def outcomeAt (answers : Nat → Except ClientError TxMatches) (i : Nat) :
    Except ClientError TxMatches :=
  match answers i with
  | .error e => .error e
  | .ok page => .ok ⟨page.totalCount, received answers (i + 1)⟩

theorem page_of_goesOn (goesOn : ¬EndsAt answers i) :
    ∃ page, answers i = .ok page ∧ page.txs ≠ [] ∧
      (received answers (i + 1)).length < page.totalCount.toNat := by
  unfold EndsAt at goesOn
  split at goesOn
  · exact absurd trivial goesOn
  · next page answered =>
    obtain ⟨some, less⟩ := not_or.1 goesOn
    exact ⟨page, answered, some, Nat.lt_of_not_le less⟩

theorem isLastPage_iff_endsAt {page : TxMatches} (answered : answers i = .ok page) :
    isLastPage page (received answers (i + 1)) = true ↔ EndsAt answers i := by
  rw [isLastPage, EndsAt, answered, Bool.or_eq_true, decide_eq_true_eq, List.isEmpty_iff]

/-- Every answer that does not end a search brings a transaction. -/
theorem le_length_received (goesOn : ∀ i < n, ¬EndsAt answers i) :
    n ≤ (received answers n).length := by
  induction n with
  | zero => exact Nat.zero_le _
  | succ n ih =>
    obtain ⟨page, answered, some, -⟩ := page_of_goesOn (goesOn n (Nat.lt_succ_self n))
    have before := ih fun i earlier => goesOn i (Nat.lt_succ_of_lt earlier)
    have more := List.length_pos_of_ne_nil some
    rw [received_succ, List.length_append, answered, txsOf]
    omega

/-- As the transactions stay below the counts, a search ends before there are as many answers as the
greatest of them says. -/
theorem count_le_of_goesOn (goesOn : ∀ i < n, ¬EndsAt answers i)
    (bounded : ∀ i < n, ∀ page, answers i = .ok page → page.totalCount.toNat ≤ bound) :
    n + 1 ≤ max 1 bound := by
  cases n with
  | zero => exact Nat.le_max_left ..
  | succ n =>
    obtain ⟨page, answered, -, less⟩ := page_of_goesOn (goesOn n (Nat.lt_succ_self n))
    have many := le_length_received goesOn
    have counted := bounded n (Nat.lt_succ_self n) page answered
    omega

theorem lt_size_of_goesOn (goesOn : ∀ i < n, ¬EndsAt answers i) : n < UInt64.size := by
  have small (i : Nat) (_ : i < n) (page : TxMatches) (_ : answers i = .ok page) :
      page.totalCount.toNat ≤ UInt64.size - 1 := Nat.le_sub_one_of_lt page.totalCount.toNat_lt
  have counted := count_le_of_goesOn goesOn small
  have : 1 < UInt64.size := by decide
  omega

/-- Some answer is the first one that ends a search. -/
theorem exists_end (answers : Nat → Except ClientError TxMatches) :
    ∃ last, EndsAt answers last ∧ ∀ i < last, ¬EndsAt answers i := by
  classical
  have ends : ∃ last, EndsAt answers last := by
    by_contra none
    exact Nat.lt_irrefl _ (lt_size_of_goesOn fun i _ ends => none ⟨i, ends⟩)
  exact ⟨Nat.find ends, Nat.find_spec ends, fun _ earlier => Nat.find_min ends earlier⟩

end Answers

/-! ## The search -/

/-- A search with the page size that is used for it. -/
def sized (search : TxSearch) : TxSearch :=
  { search with perPage := some (search.perPage.getD defaultPageSize) }

/-- The request for a page, counted from the first one of a search over all pages. -/
def pageRequest (search : TxSearch) (i : Nat) : TxSearch :=
  { sized search with page := some (UInt32.ofNat (search.firstPage + i)) }

section Search

variable {σ : Type} (client : Client) (search : TxSearch)
  (execute : Method → Params → σ → Except RpcError Json × σ) (s : σ)

/-- The state of a transport after requests for so many pages in a row. -/
def stateAfter : Nat → σ
  | 0 => s
  | i + 1 => ((client.search (pageRequest search i)).run execute (stateAfter i)).2

/-- What comes of one request for a page after those for the pages before it. -/
def answerAt (i : Nat) : Except ClientError TxMatches :=
  ((client.search (pageRequest search i)).run execute (client.stateAfter search execute s i)).1

/-- The request for a page as it is sent. -/
def sentFor (search : TxSearch) (i : Nat) : Method × Params :=
  (.txSearch, Params.txSearch (pageRequest search i))

theorem stateAfter_succ (i : Nat) :
    client.stateAfter search execute s (i + 1) =
      (execute .txSearch (Params.txSearch (pageRequest search i))
        (client.stateAfter search execute s i)).2 := by
  simp only [stateAfter, Client.search, Exchange.ask, Exchange.run]
  split <;> rfl

theorem answerAt_eq (i : Nat) :
    client.answerAt search execute s i =
      match (execute .txSearch (Params.txSearch (pageRequest search i))
        (client.stateAfter search execute s i)).1 with
      | .error e => .error (.rpc e)
      | .ok result => ((TxMatches.schema client.dialect).read result).mapError .decode := by
  simp only [answerAt, Client.search, Exchange.ask, Exchange.run]
  cases (execute .txSearch (Params.txSearch (pageRequest search i))
    (client.stateAfter search execute s i)).1 <;> rfl

variable {client search execute s} {i fuel : Nat} {found : List TxRecord}

/-- One request of a search over all pages is a search of one page. -/
theorem run_searchFrom_request (sent : List (Method × Params)) :
    (searchFrom client (sized search) (fuel + 1) (UInt32.ofNat (search.firstPage + i)) found).run
        (Exchange.recorded execute) (client.stateAfter search execute s i, sent) =
      let next := (client.stateAfter search execute s (i + 1), sent ++ [sentFor search i])
      match client.answerAt search execute s i with
      | .error e => (.error e, next)
      | .ok page =>
        if isLastPage page (found ++ page.txs) then
          (.ok ⟨page.totalCount, found ++ page.txs⟩, next)
        else
          (searchFrom client (sized search) fuel (UInt32.ofNat (search.firstPage + (i + 1)))
            (found ++ page.txs)).run (Exchange.recorded execute) next := by
  have following : UInt32.ofNat (search.firstPage + i) + 1 =
      UInt32.ofNat (search.firstPage + (i + 1)) := by
    rw [← Nat.add_assoc, UInt32.ofNat_add (search.firstPage + i)]
    rfl
  rw [answerAt_eq, stateAfter_succ]
  cases executed : (execute .txSearch (Params.txSearch (pageRequest search i))
      (client.stateAfter search execute s i)).1 with
  | error e =>
    simp only [searchFrom, Exchange.run, Exchange.recorded]
    rw [← pageRequest, executed]
    rfl
  | ok result =>
    dsimp only
    cases read : (TxMatches.schema client.dialect).read result with
    | error e =>
      simp only [searchFrom, Exchange.run, Exchange.recorded]
      rw [← pageRequest, executed]
      dsimp only
      rw [read]
      rfl
    | ok page =>
      rw [run_searchFrom_answer executed read, following]
      rfl

theorem received_append {page : TxMatches}
    (answered : client.answerAt search execute s i = .ok page) :
    received (client.answerAt search execute s) i ++ page.txs =
      received (client.answerAt search execute s) (i + 1) := by
  rw [received_succ, answered, txsOf]

/-- An answer that ends the search. -/
theorem run_searchFrom_ends (ends : EndsAt (client.answerAt search execute s) i)
    (sent : List (Method × Params)) :
    (searchFrom client (sized search) (fuel + 1) (UInt32.ofNat (search.firstPage + i))
        (received (client.answerAt search execute s) i)).run
        (Exchange.recorded execute) (client.stateAfter search execute s i, sent) =
      (outcomeAt (client.answerAt search execute s) i, client.stateAfter search execute s (i + 1),
        sent ++ [sentFor search i]) := by
  rw [run_searchFrom_request, outcomeAt]
  cases answered : client.answerAt search execute s i with
  | error e => rfl
  | ok page =>
    dsimp only
    rw [received_append answered, if_pos ((isLastPage_iff_endsAt answered).2 ends)]

/-- An answer with which the search goes on. -/
theorem run_searchFrom_goesOn (goesOn : ¬EndsAt (client.answerAt search execute s) i)
    (sent : List (Method × Params)) :
    (searchFrom client (sized search) (fuel + 1) (UInt32.ofNat (search.firstPage + i))
        (received (client.answerAt search execute s) i)).run
        (Exchange.recorded execute) (client.stateAfter search execute s i, sent) =
      (searchFrom client (sized search) fuel (UInt32.ofNat (search.firstPage + (i + 1)))
        (received (client.answerAt search execute s) (i + 1))).run
        (Exchange.recorded execute)
        (client.stateAfter search execute s (i + 1), sent ++ [sentFor search i]) := by
  obtain ⟨page, answered, -⟩ := page_of_goesOn goesOn
  rw [run_searchFrom_request, answered]
  dsimp only
  rw [received_append answered, if_neg (mt (isLastPage_iff_endsAt answered).1 goesOn)]

/-- From some page on a search goes through the answers up to the first one that ends it. -/
theorem run_searchFrom_answers {left : Nat} (enough : left < fuel)
    (ends : EndsAt (client.answerAt search execute s) (i + left))
    (goesOn : ∀ k < left, ¬EndsAt (client.answerAt search execute s) (i + k))
    (sent : List (Method × Params)) :
    (searchFrom client (sized search) fuel (UInt32.ofNat (search.firstPage + i))
        (received (client.answerAt search execute s) i)).run
        (Exchange.recorded execute) (client.stateAfter search execute s i, sent) =
      (outcomeAt (client.answerAt search execute s) (i + left),
        client.stateAfter search execute s (i + left + 1),
        sent ++ (List.range' i (left + 1)).map (sentFor search)) := by
  obtain _ | fuel := fuel
  · cases enough
  induction left generalizing fuel i sent with
  | zero => exact run_searchFrom_ends ends sent
  | succ left ih =>
    have shift (k : Nat) : i + (k + 1) = i + 1 + k := by omega
    have first : ¬EndsAt (client.answerAt search execute s) i := goesOn 0 (Nat.succ_pos left)
    obtain _ | fuel := fuel
    · omega
    rw [shift left] at ends ⊢
    rw [run_searchFrom_goesOn first,
      ih ends (fun k before => shift k ▸ goesOn (k + 1) (by omega)) _ fuel (by omega),
      List.append_assoc]
    rfl

/-- The pages that are asked for, as long as their numbers fit. -/
theorem asksPage_sentFor (fits : search.firstPage + i < UInt32.size) :
    (sentFor search i).2.AsksPage search.query search.prove search.pageSize
      (search.firstPage + i) := by
  have asks := Params.asksPage_txSearch search (UInt32.ofNat (search.firstPage + i))
    (search.perPage.getD defaultPageSize)
  rwa [UInt32.toNat_ofNat_of_lt' fits] at asks

theorem forall₂_sentFor (search : TxSearch) (count : Nat) :
    List.Forall₂ (fun page request => request.1 = .txSearch ∧ (page < UInt32.size →
      request.2.AsksPage search.query search.prove search.pageSize page))
      (List.range' search.firstPage count) ((List.range' 0 count).map (sentFor search)) := by
  rw [← Nat.add_zero search.firstPage, ← List.map_add_range', List.forall₂_map_left_iff,
    List.forall₂_map_right_iff, List.forall₂_same]
  exact fun i _ => ⟨rfl, asksPage_sentFor⟩

end Search

end Client

/-- A search over all pages ends with any answers. Whatever a node answers to the requests for its
pages, the search asks for page after page from its first one, each once and in turn, and ends with
the first answer that is an error, an empty page, or one with which it has as many transactions as
that answer counts. It comes to the error alone, or to all transactions in the order of the pages
and the count of the last answer. It takes no more requests than the greatest count says, though at
least one. -/
theorem search_meets_any_answers {σ : Type} (client : Client) (search : TxSearch)
    (execute : Method → Params → σ → Except RpcError Json × σ) (s : σ) :
    ∃ last asked,
      Client.EndsAt (client.answerAt search execute s) last ∧
      (∀ i < last, ¬Client.EndsAt (client.answerAt search execute s) i) ∧
      (client.searchAll search).run (Exchange.recorded execute) (s, []) =
        (Client.outcomeAt (client.answerAt search execute s) last,
          client.stateAfter search execute s (last + 1), asked) ∧
      List.Forall₂ (fun page request => request.1 = .txSearch ∧ (page < UInt32.size →
        request.2.AsksPage search.query search.prove search.pageSize page))
        (List.range' search.firstPage (last + 1)) asked ∧
      ∀ bound, (∀ i ≤ last, ∀ page, client.answerAt search execute s i = .ok page →
        page.totalCount.toNat ≤ bound) → asked.length ≤ max 1 bound := by
  obtain ⟨last, ends, goesOn⟩ := Client.exists_end (client.answerAt search execute s)
  have ran := Client.run_searchFrom_answers (i := 0) (Client.lt_size_of_goesOn goesOn)
    (by rwa [Nat.zero_add]) (by simpa only [Nat.zero_add] using goesOn) []
  rw [Nat.add_zero, TxSearch.firstPage, UInt32.ofNat_toNat, Nat.zero_add] at ran
  refine ⟨last, _, ends, goesOn, ran, Client.forall₂_sentFor search _, fun bound bounded => ?_⟩
  rw [List.nil_append, List.length_map, List.length_range']
  exact Client.count_le_of_goesOn goesOn fun i earlier => bounded i (Nat.le_of_lt earlier)

section Sample

/-- A node that has some pages to answer with, whatever it is asked for, and then no more. -/
def TxMatches.replaying (pages : List TxMatches) (_ : Method) (_ : Params) (count : Nat) :
    Except RpcError Json × Nat :=
  (((pages[count]?).map (write .terse)).elim (.error .transportClosed) .ok, count + 1)

variable {pages : List TxMatches}

theorem TxMatches.stateAfter_replaying (search : TxSearch) (i : Nat) :
    Client.stateAfter ⟨.v0_25⟩ search (replaying pages) 0 i = i := by
  induction i with
  | zero => rfl
  | succ i ih => rw [Client.stateAfter_succ, ih, replaying]

theorem TxMatches.answerAt_replaying (search : TxSearch) {i : Nat} {page : TxMatches}
    (there : pages[i]? = some page) :
    Client.answerAt ⟨.v0_25⟩ search (replaying pages) 0 i = .ok page := by
  have read : (schema (Client.mk .v0_25).dialect).read (write .terse page) = .ok page :=
    decode_write .terse _ _
  rw [Client.answerAt_eq, stateAfter_replaying]
  simp only [replaying, there, Option.map_some, Option.elim_some, read, Except.mapError]

/-- Two transactions on pages that do not count the same. -/
def TxMatches.two : List TxMatches := [⟨3, TxRecord.three.take 1⟩, ⟨2, TxRecord.three.drop 2⟩]

/-- A search for one transaction on a page. -/
def TxSearch.single : TxSearch := ⟨.empty, false, none, some 1⟩

/-- The second of them ends a search, as it counts no more than there are by then. -/
theorem second_count_ends_a_search :
    ∃ asked, (Client.searchAll ⟨.v0_25⟩ .single).run
        (Exchange.recorded (TxMatches.replaying TxMatches.two)) (0, []) =
        (.ok ⟨2, TxRecord.three.take 1 ++ TxRecord.three.drop 2⟩, 2, asked) ∧
      List.Forall₂ (fun page request => request.2.AsksPage .empty false 1 page) [1, 2] asked ∧
      asked.length ≤ 3 := by
  obtain ⟨last, asked, ends, goesOn, ran, each, few⟩ :=
    search_meets_any_answers ⟨.v0_25⟩ .single (TxMatches.replaying TxMatches.two) 0
  have first : Client.answerAt ⟨.v0_25⟩ .single (TxMatches.replaying TxMatches.two) 0 0 = _ :=
    TxMatches.answerAt_replaying .single rfl
  have second : Client.answerAt ⟨.v0_25⟩ .single (TxMatches.replaying TxMatches.two) 0 1 = _ :=
    TxMatches.answerAt_replaying .single rfl
  have after : Client.stateAfter ⟨.v0_25⟩ .single (TxMatches.replaying TxMatches.two) 0 2 = 2 :=
    TxMatches.stateAfter_replaying .single 2
  generalize Client.answerAt ⟨.v0_25⟩ .single (TxMatches.replaying TxMatches.two) 0 = answers at *
  have one : Client.received answers 1 = TxRecord.three.take 1 := by
    rw [Client.received_succ, first]
    rfl
  have two : Client.received answers 2 = TxRecord.three.take 1 ++ TxRecord.three.drop 2 := by
    rw [Client.received_succ, one, second]
    rfl
  have more : ¬Client.EndsAt answers 0 := by
    rw [Client.EndsAt, first, one]
    decide
  have enough : Client.EndsAt answers 1 := by
    rw [Client.EndsAt, second, two]
    decide
  obtain rfl : last = 1 := by
    obtain none | rfl | later := Nat.lt_trichotomy last 1
    · exact absurd (Nat.lt_one_iff.1 none ▸ ends) more
    · rfl
    · exact absurd enough (goesOn 1 later)
  rw [Client.outcomeAt, second, two, after] at ran
  refine ⟨asked, ran, ?_, few 3 fun i inside page answered => ?_⟩
  · obtain _ | ⟨⟨-, asks⟩, _ | ⟨⟨-, again⟩, _ | _⟩⟩ := each
    exact .cons (asks (by decide)) (.cons (again (by decide)) .nil)
  · obtain rfl | rfl : i = 0 ∨ i = 1 := by omega
    · cases first.symm.trans answered
      decide
    · cases second.symm.trans answered
      decide

end Sample

end Tendermint
