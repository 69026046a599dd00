import Tendermint.Json.Token

/-!
# Tendermint.Json.Reader

JSON text read into a value. Tokens are taken one at a time by a machine with a stack of the
arrays and objects that are still open, so the depth of a text is the height of that stack.

* `Json.ofText?`: strict JSON, nested at most `maxDepth` deep, nothing after the value.
-/

namespace Tendermint

namespace Json

/-- An open array with its items in reverse, or an open object with the key of the member
whose value comes next. -/
inductive Frame where
  | items (read : List Json)
  | members (read : Members) (key : String)
  deriving Repr

/-- What may come next. -/
inductive Reader where
  | value (stack : List Frame)
  | firstItem (stack : List Frame)
  | firstKey (stack : List Frame)
  | key (read : Members) (stack : List Frame)
  | colon (read : Members) (key : String) (stack : List Frame)
  | after (value : Json) (stack : List Frame)
  deriving Repr

namespace Reader

/-- A value begins with this token, inside the open `stack`. -/
def beginValue (limit : Nat) (stack : List Frame) : Token → Option Reader
  | .scalar v => some (.after v stack)
  | .text s => some (.after (.string s) stack)
  | .beginArray => if stack.length < limit then some (.firstItem stack) else none
  | .beginObject => if stack.length < limit then some (.firstKey stack) else none
  | _ => none

/-- Takes one token. Arrays and objects may be nested `limit` deep. -/
def step (limit : Nat) : Reader → Token → Option Reader
  | .value stack, t => beginValue limit stack t
  | .firstItem stack, .endArray => some (.after (.array []) stack)
  | .firstItem stack, t => beginValue limit (.items [] :: stack) t
  | .firstKey stack, .endObject => some (.after (.object []) stack)
  | .firstKey stack, .text k => some (.colon [] k stack)
  | .firstKey _, _ => none
  | .key read stack, .text k => some (.colon read k stack)
  | .key _ _, _ => none
  | .colon read k stack, .colon => some (.value (.members read k :: stack))
  | .colon _ _ _, _ => none
  | .after v (.items read :: stack), .comma => some (.value (.items (v :: read) :: stack))
  | .after v (.items read :: stack), .endArray => some (.after (.array (v :: read).reverse) stack)
  | .after v (.members read k :: stack), .comma => some (.key (read.insert k v) stack)
  | .after v (.members read k :: stack), .endObject =>
    some (.after (.object (read.insert k v)) stack)
  | .after _ _, _ => none

/-- The value, once all is closed. -/
def finish : Reader → Option Json
  | .after v [] => some v
  | _ => none

def run (limit : Nat) : Reader → List Token → Option Json
  | state, [] => state.finish
  | state, t :: rest =>
    match state.step limit t with
    | none => none
    | some next => run limit next rest

end Reader

/-- How deep arrays and objects may be nested in a message. -/
def maxDepth : Nat := 127

/-- Reads a text that is one JSON value nested at most `limit` deep. -/
def ofTextWithin? (limit : Nat) (text : String) : Option Json :=
  match Token.scan text with
  | none => none
  | some tokens => (Reader.value []).run limit tokens

/-- Reads a text that is one JSON value. -/
def ofText? (text : String) : Option Json := ofTextWithin? maxDepth text

end Json

end Tendermint
