import Tendermint.Json.Compact
import Tendermint.Text.Hex
import Tendermint.Text.Printable

/-!
# Tendermint.Wire.Typed

The wording of what is wrong with a frame, an event or an identifier whose JSON is well formed:
a value of another kind than expected, a missing member, or a list of the wrong length. A
structure may stand as an object or as the list of its members.
-/

namespace Tendermint

/-- Why a JSON value is not the structure that was expected. -/
inductive ShapeError where
  | wrongKind (value : Json) (expected : String)
  | missingMember (name : String)
  | tooShort (length : Nat) (structureName : String) (expected : Nat)
  | tooLong (length : Nat)
  | noIdentifier
  deriving DecidableEq, Repr

namespace Text

/-- A character inside a quoted text: quotes, backslashes and characters without a sign of their
own are escaped. -/
def shownChar (c : Char) : List Char :=
  if c = '"' then ['\\', '"']
  else if c = '\\' then ['\\', '\\']
  else if c = '\t' then ['\\', 't']
  else if c = '\n' then ['\\', 'n']
  else if c = '\r' then ['\\', 'r']
  else if c.toNat = 0 then ['\\', '0']
  else if isPrintable c then [c]
  else "\\u\x7b".toList ++ (hexNumber c.toNat).toList ++ ['\x7d']

/-- A text between quotes, for a reader. -/
def shown (text : String) : String :=
  "\"" ++ String.ofList (text.toList.flatMap shownChar) ++ "\""

end Text

/-- What a value is, in the words of a message. -/
def Json.kindText : Json → String
  | .null => "null"
  | .bool b => "boolean `" ++ toString b ++ "`"
  | .number (.integer n) => "integer `" ++ toString n ++ "`"
  | .number (.real x) => "floating point `" ++ (Number.real x).text ++ "`"
  | .string s => "string " ++ Text.shown s
  | .array _ => "sequence"
  | .object _ => "map"

def ShapeError.message : ShapeError → String
  | .wrongKind value expected => "invalid type: " ++ value.kindText ++ ", expected " ++ expected
  | .missingMember name => "missing field `" ++ name ++ "`"
  | .tooShort length structureName expected =>
    "invalid length " ++ toString length ++ ", expected struct " ++ structureName ++ " with " ++
      toString expected ++ " elements"
  | .tooLong length =>
    "invalid length " ++ toString length ++ ", expected fewer elements in array"
  | .noIdentifier => "data did not match any variant of untagged enum JsonRpcId"

end Tendermint
