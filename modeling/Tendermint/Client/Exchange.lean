import Tendermint.Schema.Basic
import Tendermint.Client.Error
import Tendermint.Wire.Request

/-!
# Tendermint.Client.Exchange

A conversation with a node: a tree of requests, with a branch for each answer that may come
back. What a call does is written down once as such a tree; a transport is whatever can answer
a request, and running the tree over it gives the outcome of the call.

* `Exchange`: the tree.
* `Exchange.ask`: one request whose answer is read by a schema.
* `Exchange.run`: over a transport with a state of its own.
-/

namespace Tendermint

/-- Requests, and what is done with their answers. -/
inductive Exchange (α : Type) where
  | done (outcome : α)
  | call (method : Method) (params : Params) (next : Except RpcError Json → Exchange α)

namespace Exchange

variable {α β σ : Type}

def bind (first : Exchange α) (next : α → Exchange β) : Exchange β :=
  match first with
  | .done a => next a
  | .call method params rest => .call method params fun answer => (rest answer).bind next

instance : Monad Exchange where
  pure := .done
  bind := bind

/-- One request, and the result as JSON. -/
def request (method : Method) (params : Params) : Exchange (Except ClientError Json) :=
  .call method params fun
    | .error e => .done (.error (.rpc e))
    | .ok result => .done (.ok result)

/-- One request, and the result read by a schema. -/
def ask (method : Method) (params : Params) (schema : Schema α) :
    Exchange (Except ClientError α) :=
  .call method params fun
    | .error e => .done (.error (.rpc e))
    | .ok result => .done ((schema.read result).mapError .decode)

/-- Runs a conversation over a transport that answers each request from its state. -/
def run (execute : Method → Params → σ → Except RpcError Json × σ) : Exchange α → σ → α × σ
  | .done a, s => (a, s)
  | .call method params next, s =>
    let (answer, s) := execute method params s
    (next answer).run execute s

end Exchange

end Tendermint
