import Tendermint.Client.Exchange

/-!
# Tendermint.Client.Script

A node whose answers are written down in advance: for each method a list of them. Each request
takes the next answer of its method, and the last one repeats; a method without answers is
unknown to the node. Conversations run over such a node need no network.
-/

namespace Tendermint

/-- The answers that are left for each method, and the requests so far, the latest last. -/
structure Script where
  answers : List (String × List (Except RpcError Json))
  sent : List (Method × Params)

namespace Script

def ofAnswers (answers : List (String × List (Except RpcError Json))) : Script := ⟨answers, []⟩

/-- The code of an error for a method that a node does not know. -/
def unknownMethodCode : Int64 := -32601

def unknownMethod (name : String) : RpcError :=
  .server unknownMethodCode ("Method not found: " ++ name) none

/-- The first of some answers and those that are left; a single one is never used up. -/
def takeNext (name : String) :
    List (Except RpcError Json) → Except RpcError Json × List (Except RpcError Json)
  | [] => (.error (unknownMethod name), [])
  | [last] => (last, [last])
  | next :: rest => (next, rest)

/-- The next answer of a method. -/
def takeFrom (name : String) : List (String × List (Except RpcError Json)) →
    Except RpcError Json × List (String × List (Except RpcError Json))
  | [] => (.error (unknownMethod name), [])
  | (key, answers) :: rest =>
    if key = name then
      let (answer, left) := takeNext name answers
      (answer, (key, left) :: rest)
    else
      let (answer, rest) := takeFrom name rest
      (answer, (key, answers) :: rest)

/-- Answers a request. -/
def execute (method : Method) (params : Params) (script : Script) :
    Except RpcError Json × Script :=
  let (answer, answers) := takeFrom method.name script.answers
  (answer, ⟨answers, script.sent ++ [(method, params)]⟩)

/-- Runs a conversation with the node. -/
def converse {α : Type} (exchange : Exchange α) (script : Script) : α × Script :=
  exchange.run execute script

end Script

end Tendermint
