import Tendermint.Text.Bytes
import Tendermint.Unicode.Replacement
import Tendermint.Url.Label
import Tendermint.Url.Separator

/-!
# Tendermint.Url.Domain

Domain names, after UTS #46. A name is kept in ASCII and in lower case. One with code points
beyond ASCII is first written in ASCII, label by label, and then has to be right like any other.

* `Domain.written?`: a name in ASCII.
* `Domain.ofBytes?`: reads a name.
-/

namespace Tendermint.Url.Domain

/-- ASCII characters that no domain name may have. -/
def isForbidden (c : Char) : Bool :=
  c.toNat ≤ 32 || 127 ≤ c.toNat ||
    c ∈ ['#', '%', '/', ':', '<', '>', '?', '@', '[', '\\', ']', '^', '|']

/-- Reads a name in ASCII. -/
def ofAscii? (text : List Char) : Option (List Char) :=
  let name := text.map Char.toLower
  if name.any isForbidden || !Label.areValid (splitOn '.' name) then none else some name

/-- A name in ASCII. The code points are spelled in the one way that counts, in their normal
form, before the name falls apart into labels, so other full stops separate labels too. -/
def written? (text : List Char) : Option (List Char) :=
  match text.mapM fun c => Unicode.spelled? c.toNat with
  | none => none
  | some spelled =>
    let labels := splitOn '.'.toNat (Unicode.normalForm spelled.flatten)
    (labels.mapM Label.written?).map (['.'].intercalate ·)

/-- Reads a name from the bytes behind it. -/
def ofBytes? (bytes : Bytes) : Option (List Char) :=
  if bytes.all (· < 128) then ofAscii? (bytes.map fun b => Char.ofNat b.toNat)
  else ((Text.ofBytes? bytes).bind fun text => written? text.toList).bind ofAscii?

end Tendermint.Url.Domain
