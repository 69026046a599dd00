import Tendermint.Text.Hex

/-!
# Tendermint.Url.Percent

Percent-encoding: a byte as `%` and two hexadecimal digits. Each part of a URL has its own set
of characters that must be encoded; control characters and all but ASCII are in every one.
-/

namespace Tendermint.Url

/-- The characters besides controls that a part of a URL must not show. -/
abbrev EncodeSet := List Char

def fragmentSet : EncodeSet := [' ', '"', '<', '>', '\x60']

def pathSet : EncodeSet := fragmentSet ++ ['#', '?', '\x7b', '\x7d']

def querySet : EncodeSet := [' ', '"', '#', '<', '>']

/-- In a URL of a special scheme a query must not show a single quote either. -/
def specialQuerySet : EncodeSet := querySet ++ ['\'']

def userinfoSet : EncodeSet := pathSet ++ ['/', ':', ';', '=', '@', '[', '\\', ']', '^', '|']

/-- A byte in percent-encoding, with upper-case digits. -/
def encodeByte (byte : UInt8) : List Char := '%' :: Hex.encodeChars 65 [byte]

def encodeChar (set : EncodeSet) (c : Char) : List Char :=
  if c.toNat < 32 ∨ 127 ≤ c.toNat ∨ c ∈ set then
    (String.utf8EncodeChar c).flatMap encodeByte
  else [c]

/-- A part of a URL with all characters of the set encoded. -/
def encode (set : EncodeSet) (text : List Char) : List Char := text.flatMap (encodeChar set)

/-- The bytes behind a text; a `%` without two digits stands for itself. -/
def decode : Bytes → Bytes
  | [] => []
  | [a] => [a]
  | [a, b] => [a, b]
  | a :: b :: c :: rest =>
    if a = 37 then
      match Hex.digit? b, Hex.digit? c with
      | some h, some l => (h * 16 + l) :: decode rest
      | _, _ => a :: decode (b :: c :: rest)
    else a :: decode (b :: c :: rest)

end Tendermint.Url
