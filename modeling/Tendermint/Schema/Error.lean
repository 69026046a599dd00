/-!
# Tendermint.Schema.Error

What can be wrong with an answer whose JSON is well formed.
-/

namespace Tendermint

/-- An answer that does not have the shape a protocol version promises. -/
inductive DecodeError where
  | missingField (name : String)
  | invalidField (name reason : String)
  | unknownKeyType (name : String)
  /-- An event without the member that holds what its kind announces. -/
  | unexpectedEvent (kind name : String)
  deriving DecidableEq, Repr

def DecodeError.message : DecodeError → String
  | .missingField name => "missing required field `" ++ name ++ "`"
  | .invalidField name reason => "invalid field `" ++ name ++ "`: " ++ reason
  | .unknownKeyType name => "unknown public key type `" ++ name ++ "`"
  | .unexpectedEvent kind name =>
    "unexpected event payload: `" ++ kind ++ "` event without `" ++ name ++ "`"

end Tendermint
