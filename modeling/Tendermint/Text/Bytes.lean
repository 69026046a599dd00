/-!
# Tendermint.Text.Bytes

Byte strings, and the bytes of a text in UTF-8.
-/

namespace Tendermint

/-- A byte string. -/
abbrev Bytes := List UInt8

namespace Text

/-- The UTF-8 bytes of a text. -/
def bytes (text : String) : Bytes := text.toList.flatMap String.utf8EncodeChar

/-- The text whose UTF-8 bytes these are, if they are well formed. -/
def ofBytes? (bytes : Bytes) : Option String := String.fromUTF8? (ByteArray.mk bytes.toArray)

end Text

end Tendermint
