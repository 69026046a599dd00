import Tendermint.Url.Domain
import Tendermint.Url.Percent

/-!
# Tendermint.Url.Host

The host of a URL: a domain name, or an address of either version of IP. A domain name whose
last label is a number has to be an IPv4 address.

* `Host.ofSpecial`, `Host.ofOpaque`: the host of a special scheme and of any other.
* `Host.text`: the written form.
-/

namespace Tendermint

/-- Why a text is not a URL. -/
inductive UrlError where
  | relative
  | emptyHost
  | invalidPort
  | invalidDomain
  | invalidDomainCharacter
  | invalidIpv4
  | invalidIpv6
  deriving DecidableEq, Repr

def UrlError.message : UrlError → String
  | .relative => "relative URL without a base"
  | .emptyHost => "empty host"
  | .invalidPort => "invalid port number"
  | .invalidDomain => "invalid international domain name"
  | .invalidDomainCharacter => "invalid domain character"
  | .invalidIpv4 => "invalid IPv4 address"
  | .invalidIpv6 => "invalid IPv6 address"

/-- The host of a URL. -/
inductive Host where
  | domain (name : List Char)
  | ipv4 (address : Nat)
  | ipv6 (pieces : List Nat)
  deriving DecidableEq, Repr

namespace Host

def digitIn? (base : Nat) (c : Char) : Option Nat :=
  let value :=
    if '0' ≤ c ∧ c ≤ '9' then c.toNat - 48
    else if 'a' ≤ c ∧ c ≤ 'f' then c.toNat - 87
    else if 'A' ≤ c ∧ c ≤ 'F' then c.toNat - 55
    else base
  if value < base then some value else none

/-- A number in a base, of any length. -/
def numberIn? (base : Nat) (text : List Char) : Option Nat :=
  text.foldl (fun value c => value.bind fun n => (digitIn? base c).map (n * base + ·)) (some 0)

section Ipv4

/-- A part of an IPv4 address: decimal, octal after `0`, hexadecimal after `0x`. -/
def ipv4Number? : List Char → Option Nat
  | [] => none
  | '0' :: 'x' :: rest => numberIn? 16 rest
  | '0' :: 'X' :: rest => numberIn? 16 rest
  | '0' :: c :: rest => numberIn? 8 (c :: rest)
  | text => numberIn? 10 text

/-- Labels without the empty one behind a final dot. -/
def withoutFinalEmpty (labels : List (List Char)) : List (List Char) :=
  match labels.reverse with
  | [] :: rest => rest.reverse
  | _ => labels

/-- Whether the last label of a name is a number. -/
def endsInNumber (name : List Char) : Bool :=
  match (withoutFinalEmpty (Url.splitOn '.' name)).reverse with
  | [] => false
  | last :: _ =>
    (!last.isEmpty && last.all (fun c => '0' ≤ c && c ≤ '9')) || (ipv4Number? last).isSome

/-- Up to four numbers; the last one fills all the bytes that are left. -/
def ipv4OfNumbers (numbers : List Nat) : Option Nat :=
  match numbers.reverse with
  | [] => none
  | last :: front =>
    let count := front.length
    if 3 < count ∨ front.any (255 < ·) ∨ Nat.pow 256 (4 - count) ≤ last then none
    else some (front.reverse.foldl (fun sum n => sum * 256 + n) 0 * Nat.pow 256 (4 - count) + last)

def ipv4? (name : List Char) : Option Nat :=
  ((withoutFinalEmpty (Url.splitOn '.' name)).mapM ipv4Number?).bind ipv4OfNumbers

def ipv4Text (address : Nat) : List Char :=
  let byte (place : Nat) := (toString (address / Nat.pow 256 place % 256)).toList
  byte 3 ++ '.' :: byte 2 ++ '.' :: byte 1 ++ '.' :: byte 0

end Ipv4

section Ipv6

/-- A byte of a dotted address inside an IPv6 address: decimal without a leading zero. -/
def dottedByte? : List Char → Option Nat
  | [] => none
  | '0' :: _ :: _ => none
  | text => (numberIn? 10 text).bind fun n => if n < 256 then some n else none

/-- The last two pieces of an address, written as an IPv4 address. -/
def dottedPieces? (text : List Char) : Option (List Nat) :=
  match (Url.splitOn '.' text).mapM dottedByte? with
  | some [a, b, c, d] => some [a * 256 + b, c * 256 + d]
  | _ => none

/-- A piece: one to four hexadecimal digits. -/
def piece? (text : List Char) : Option Nat :=
  if text.isEmpty || 4 < text.length then none else numberIn? 16 text

/-- The pieces in a row of fields, of which the last one may be dotted. -/
def pieces? : List (List Char) → Option (List Nat)
  | [] => some []
  | [last] => if last.contains '.' then dottedPieces? last else (piece? last).map fun p => [p]
  | field :: rest =>
    match piece? field, pieces? rest with
    | some p, some more => some (p :: more)
    | _, _ => none

/-- The fields of an address, where a gap at either end counts once. -/
def fields? (text : List Char) : Option (List (List Char)) :=
  let fields := Url.splitOn ':' text
  let opened : Option (List (List Char)) :=
    match fields with
    | [] :: [] :: rest => some ([] :: rest)
    | [] :: _ => none
    | fields => some fields
  match opened.map List.reverse with
  | some ([] :: [] :: rest) => some ([] :: rest).reverse
  | some [[]] => none
  | some ([] :: _) => none
  | some fields => some fields.reverse
  | none => none

/-- Eight pieces, or fewer with a gap that stands for at least one zero. -/
def ipv6? (text : List Char) : Option (List Nat) :=
  match fields? text with
  | none => none
  | some fields =>
    match fields.span (fun field => !field.isEmpty) with
    | (front, []) =>
      match pieces? front with
      | some pieces => if pieces.length = 8 then some pieces else none
      | none => none
    | (front, _ :: back) =>
      match front.mapM piece?, pieces? back with
      | some front, some back =>
        let count := front.length + back.length
        if count < 8 then some (front ++ List.replicate (8 - count) 0 ++ back) else none
      | _, _ => none

/-- How many zeros the pieces begin with. -/
def leadingZeros (pieces : List Nat) : Nat := (pieces.takeWhile (· == 0)).length

/-- The first longest run of zeros: its place and its length. -/
def longestZeros : Nat → List Nat → Nat × Nat
  | _, [] => (0, 0)
  | place, piece :: rest =>
    let here := leadingZeros (piece :: rest)
    let later := longestZeros (place + 1) rest
    if later.2 ≤ here then (place, here) else later

def piecesText (pieces : List Nat) : List Char :=
  match pieces.map (Nat.toDigits 16) with
  | [] => []
  | first :: rest => first ++ rest.flatMap (':' :: ·)

/-- Lower-case pieces, with the first longest run of two or more zeros left out. -/
def ipv6Text (pieces : List Nat) : List Char :=
  let (place, count) := longestZeros 0 pieces
  if count < 2 then piecesText pieces
  else piecesText (pieces.take place) ++ [':', ':'] ++ piecesText (pieces.drop (place + count))

end Ipv6

/-- An address between brackets. -/
def bracketed (text : List Char) : Except UrlError Host :=
  match text.getLast? with
  | some ']' =>
    match ipv6? text.dropLast with
    | some pieces => .ok (.ipv6 pieces)
    | none => .error .invalidIpv6
  | _ => .error .invalidIpv6

/-- The host of a URL with a special scheme. -/
def ofSpecial (text : List Char) : Except UrlError Host :=
  match text with
  | '[' :: rest => bracketed rest
  | text =>
    match Url.Domain.ofBytes? (Url.decode (text.flatMap String.utf8EncodeChar)) with
    | none => .error .invalidDomain
    | some [] => .error .emptyHost
    | some name =>
      if endsInNumber name then
        match ipv4? name with
        | some address => .ok (.ipv4 address)
        | none => .error .invalidIpv4
      else .ok (.domain name)

def isForbiddenInOpaque (c : Char) : Bool :=
  c.toNat = 0 || c ∈ ['\t', '\n', '\r', ' ', '#', '/', ':', '<', '>', '?', '@', '[', '\\', ']', '^', '|']

/-- The host of a URL with any other scheme, which may be empty. -/
def ofOpaque (text : List Char) : Except UrlError (Option Host) :=
  match text with
  | [] => .ok none
  | '[' :: rest => (bracketed rest).map some
  | text =>
    if text.any isForbiddenInOpaque then .error .invalidDomainCharacter
    else .ok (some (.domain (Url.encode [] text)))

def text : Host → List Char
  | .domain name => name
  | .ipv4 address => ipv4Text address
  | .ipv6 pieces => '[' :: ipv6Text pieces ++ [']']

end Host

end Tendermint
