import Tendermint.Text.Bytes
import Tendermint.Text.Printable

/-!
# Tendermint.Text.Hex

Bytes as pairs of hexadecimal digits. Reading takes letters of either case; writing has one
form per case. Positions in errors count bytes of the text, and the offending byte is shown as
the Latin-1 character with that number.

* `Hex.decode`, `Hex.encode`, `Hex.encodeUpper`.
* `HexError.message`: the wording of the two faults.
-/

namespace Tendermint

/-- Why a text is not hexadecimal. -/
inductive HexError where
  | oddLength
  | invalidCharacter (byte : UInt8) (position : Nat)
  deriving DecidableEq, Repr

namespace Text

/-- The digits of a number in lower-case hexadecimal. -/
def hexNumber (n : Nat) : String := String.ofList (Nat.toDigits 16 n)

/-- A Latin-1 character between single quotes: escaped when it is a quote, a backslash or a
character without a sign of its own. -/
def quotedLatin (byte : UInt8) : String :=
  let n := byte.toNat
  let inner :=
    if n = 0 then "\\0"
    else if n = 9 then "\\t"
    else if n = 10 then "\\n"
    else if n = 13 then "\\r"
    else if n = 39 then "\\'"
    else if n = 92 then "\\\\"
    else if isPrintable (Char.ofNat n) then String.singleton (Char.ofNat n)
    else "\\u\x7b" ++ hexNumber n ++ "\x7d"
  "'" ++ inner ++ "'"

end Text

def HexError.message : HexError → String
  | .oddLength => "Odd number of digits"
  | .invalidCharacter byte position =>
    "Invalid character " ++ Text.quotedLatin byte ++ " at position " ++ toString position

namespace Hex

/-- The value of a digit; letters count in either case. -/
def digit? (byte : UInt8) : Option UInt8 :=
  if 48 ≤ byte ∧ byte ≤ 57 then some (byte - 48)
  else if 97 ≤ byte ∧ byte ≤ 102 then some (byte - 87)
  else if 65 ≤ byte ∧ byte ≤ 70 then some (byte - 55)
  else none

/-- Reads pairs of digits; `position` is that of the first byte. -/
def decodeFrom (position : Nat) : Bytes → Except HexError Bytes
  | high :: low :: rest =>
    match digit? high with
    | none => .error (.invalidCharacter high position)
    | some h =>
      match digit? low with
      | none => .error (.invalidCharacter low (position + 1))
      | some l =>
        match decodeFrom (position + 2) rest with
        | .error e => .error e
        | .ok bytes => .ok ((h * 16 + l) :: bytes)
  | _ => .ok []

/-- Reads a text of digit pairs. An odd number of bytes is the fault that is named first. -/
def decode (text : String) : Except HexError Bytes :=
  let bytes := Text.bytes text
  if bytes.length % 2 = 1 then .error .oddLength else decodeFrom 0 bytes

/-- The digit of a number below sixteen; `letter` is the code of the one for ten. -/
def digitChar (letter : Nat) (n : UInt8) : Char :=
  if n < 10 then Char.ofNat (48 + n.toNat) else Char.ofNat (letter + (n.toNat - 10))

def encodeChars (letter : Nat) : Bytes → List Char
  | [] => []
  | b :: rest => digitChar letter (b / 16) :: digitChar letter (b % 16) :: encodeChars letter rest

/-- Writes lower-case digit pairs. -/
def encode (bytes : Bytes) : String := String.ofList (encodeChars 97 bytes)

/-- Writes upper-case digit pairs. -/
def encodeUpper (bytes : Bytes) : String := String.ofList (encodeChars 65 bytes)

end Hex

end Tendermint
