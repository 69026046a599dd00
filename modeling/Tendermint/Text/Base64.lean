import Tendermint.Text.Bytes

/-!
# Tendermint.Text.Base64

Bytes in base64, with the standard alphabet and required padding. A text is a run of alphabet
symbols and then its padding: the run stops inside its last group of four, at most two pads
complete that group, and the bits that they leave unused are zero.

* `Base64.decode`, `Base64.encode`.
* `Base64Error.message`: the wording of the faults.
-/

namespace Tendermint

/-- Why a text is not base64. -/
inductive Base64Error where
  | invalidByte (byte : UInt8) (offset : Nat)
  | loneSymbol
  | invalidLastSymbol (byte : UInt8) (offset : Nat)
  | padding
  deriving DecidableEq, Repr

def Base64Error.message : Base64Error → String
  | .invalidByte byte offset =>
    "Invalid byte " ++ toString byte.toNat ++ ", offset " ++ toString offset ++ "."
  | .loneSymbol => "Encoded text cannot have a 6-bit remainder."
  | .invalidLastSymbol byte offset =>
    "Invalid last symbol " ++ toString byte.toNat ++ ", offset " ++ toString offset ++ "."
  | .padding => "Invalid padding"

namespace Base64

/-- The padding symbol. -/
def pad : UInt8 := 61

/-- The six bits of an alphabet symbol. -/
def sextet? (byte : UInt8) : Option UInt8 :=
  if 65 ≤ byte ∧ byte ≤ 90 then some (byte - 65)
  else if 97 ≤ byte ∧ byte ≤ 122 then some (byte - 71)
  else if 48 ≤ byte ∧ byte ≤ 57 then some (byte + 4)
  else if byte = 43 then some 62
  else if byte = 47 then some 63
  else none

/-- The values of the leading alphabet symbols, and what follows them. -/
def sextets : Bytes → List UInt8 × Bytes
  | [] => ([], [])
  | b :: rest =>
    match sextet? b with
    | none => ([], b :: rest)
    | some v => (v :: (sextets rest).1, (sextets rest).2)

/-- The bytes of a run of sextets: three for each four, two for a last three, one for a last
two. -/
def unpack : List UInt8 → Bytes
  | a :: b :: c :: d :: rest => (a * 4 + b / 16) :: (b * 16 + c / 4) :: (c * 64 + d) :: unpack rest
  | [a, b, c] => [a * 4 + b / 16, b * 16 + c / 4]
  | [a, b] => [a * 4 + b / 16]
  | _ => []

/-- The bits of the last sextet that no byte takes up. -/
def spareBits : List UInt8 → UInt8
  | _ :: _ :: _ :: _ :: rest => spareBits rest
  | [_, _, c] => c % 4
  | [_, b] => b % 16
  | _ => 0

/-- The faults of a text that is not one symbol too long, in the order they are found. -/
def decodeBytes (text : Bytes) : Except Base64Error Bytes :=
  match sextets text with
  | (symbols, []) =>
    if symbols.length % 4 = 0 then .ok (unpack symbols) else .error .padding
  | (symbols, b :: rest) =>
    let count := symbols.length
    if b ≠ pad then .error (.invalidByte b count)
    else if count % 4 < 2 ∨ rest.any (· != pad) ∨ 3 < count % 4 + rest.length then
      .error (.invalidByte b count)
    else if (count + rest.length + 1) % 4 ≠ 0 then .error .padding
    else if spareBits symbols ≠ 0 then
      .error (.invalidLastSymbol (text.getD (count - 1) 0) (count - 1))
    else .ok (unpack symbols)

/-- Reads a base64 text. One symbol more than a whole number of groups is the fault that is
named first, unless the last byte is no symbol at all. -/
def decode (text : String) : Except Base64Error Bytes :=
  let bytes := Text.bytes text
  if bytes.length % 4 = 1 then
    let last := bytes.getLastD 0
    if last ≠ pad ∧ sextet? last = none then .error (.invalidByte last (bytes.length - 1))
    else .error .loneSymbol
  else decodeBytes bytes

/-- The alphabet symbol of six bits. -/
def symbol (n : UInt8) : Char :=
  if n < 26 then Char.ofNat (65 + n.toNat)
  else if n < 52 then Char.ofNat (71 + n.toNat)
  else if n < 62 then Char.ofNat (n.toNat - 4)
  else if n = 62 then '+'
  else '/'

def encodeChars : Bytes → List Char
  | [] => []
  | [a] => [symbol (a / 4), symbol (a % 4 * 16), '=', '=']
  | [a, b] => [symbol (a / 4), symbol (a % 4 * 16 + b / 16), symbol (b % 16 * 4), '=']
  | a :: b :: c :: rest =>
    symbol (a / 4) :: symbol (a % 4 * 16 + b / 16) :: symbol (b % 16 * 4 + c / 64) ::
      symbol (c % 64) :: encodeChars rest

/-- Writes a base64 text. -/
def encode (bytes : Bytes) : String := String.ofList (encodeChars bytes)

end Base64

end Tendermint
