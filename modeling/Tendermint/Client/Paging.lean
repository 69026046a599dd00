import Tendermint.Client.Calls

/-!
# Tendermint.Client.Paging

A search over all pages: page after page until an empty one comes back or as many transactions
are there as the node counts. The outcome carries the count of the last page.

Every page but the last brings a transaction, and a node counts with 64 bits, so a search never
takes more than `2 ^ 64` pages.
-/

namespace Tendermint.Client

/-- The page size of a search over all pages that names none. -/
def defaultPageSize : UInt32 := 50

/-- Whether no page after this one is asked for. -/
def isLastPage (page : TxMatches) (found : List TxRecord) : Bool :=
  page.txs.isEmpty || page.totalCount.toNat ≤ found.length

/-- Asks for `page` and those after it, at most so many as the first argument says. -/
def searchFrom (client : Client) (search : TxSearch) :
    Nat → UInt32 → List TxRecord → Call TxMatches
  | 0, _, found => .done (.ok ⟨UInt64.ofNat found.length, found⟩)
  | pages + 1, page, found =>
    .call .txSearch (Params.txSearch { search with page := some page }) fun
      | .error e => .done (.error (.rpc e))
      | .ok result =>
        match (TxMatches.schema client.dialect).read result with
        | .error e => .done (.error (.decode e))
        | .ok answer =>
          let found := found ++ answer.txs
          if isLastPage answer found then .done (.ok ⟨answer.totalCount, found⟩)
          else searchFrom client search pages (page + 1) found

/-- A search over all pages from the one that is named, or else the first. -/
def searchAll (client : Client) (search : TxSearch) : Call TxMatches :=
  let page := search.page.getD 1
  let search := { search with perPage := some (search.perPage.getD defaultPageSize) }
  searchFrom client search UInt64.size page []

end Tendermint.Client
