import Tendermint.Url.Host

/-!
# Tendermint.Url.Basic

URLs after the URL Standard: a text is cut into scheme, credentials, host, port, path, query
and fragment, each is brought into its normal form, and the whole is written out again.

* `Url.ofText`: reads a URL.
* `Url.write`: writes one.
-/

namespace Tendermint

/-- A URL in parts. All of them are encoded; the credentials end with their `@`. -/
structure Url where
  scheme : List Char
  credentials : List Char
  host : Option Host
  port : Option Nat
  path : List Char
  query : Option (List Char)
  fragment : Option (List Char)
  deriving DecidableEq, Repr

namespace Url

/-- What a scheme says of the rest of a URL. -/
inductive SchemeKind where
  /-- Schemes that always have a host. -/
  | special
  | file
  | other
  deriving DecidableEq, Repr

/-- The schemes that always have a host, with their default ports. -/
def specialSchemes : List (String × Nat) :=
  [("http", 80), ("https", 443), ("ws", 80), ("wss", 443), ("ftp", 21)]

def defaultPort? (scheme : List Char) : Option Nat :=
  specialSchemes.lookup (String.ofList scheme)

def kindOf (scheme : List Char) : SchemeKind :=
  if (defaultPort? scheme).isSome then .special
  else if scheme = "file".toList then .file
  else .other

/-- A text without control characters and blanks at its ends, and without tabs and line breaks
anywhere. -/
def cleaned (text : List Char) : List Char :=
  let outer (c : Char) : Bool := c.toNat ≤ 32
  let trimmed := ((text.dropWhile outer).reverse.dropWhile outer).reverse
  trimmed.filter fun c => c ≠ '\t' && c ≠ '\n' && c ≠ '\r'

def isSchemeChar (c : Char) : Bool := c.isAlphanum || c = '+' || c = '-' || c = '.'

/-- The scheme in lower case and what follows its colon. -/
def scheme? (text : List Char) : Option (List Char × List Char) :=
  match text with
  | [] => none
  | first :: _ =>
    if first.isAlpha then
      match text.dropWhile isSchemeChar with
      | ':' :: rest => some ((text.takeWhile isSchemeChar).map Char.toLower, rest)
      | _ => none
    else none

/-- Ends the authority: a slash, a question mark, a hash, and in special schemes a backslash. -/
def endsAuthority (special : Bool) (c : Char) : Bool :=
  c = '/' || c = '?' || c = '#' || (special && c = '\\')

/-- What stands before the last `@`, if there is one, and what stands after it. -/
def splitCredentials (text : List Char) : Option (List Char) × List Char :=
  let reversed := text.reverse
  match reversed.dropWhile (· ≠ '@') with
  | [] => (none, text)
  | _ :: before => (some before.reverse, (reversed.takeWhile (· ≠ '@')).reverse)

/-- Name and password in their encoded form; an empty password is left out with its colon. -/
def encodeCredentials (text : List Char) : List Char :=
  let name := encode userinfoSet (text.takeWhile (· ≠ ':'))
  let password := encode userinfoSet ((text.dropWhile (· ≠ ':')).drop 1)
  let both := if password.isEmpty then name else name ++ ':' :: password
  if both.isEmpty then [] else both ++ ['@']

/-- The host up to the colon of a port; colons between brackets belong to it. -/
def splitPort (inside : Bool) : List Char → List Char × List Char
  | [] => ([], [])
  | c :: rest =>
    if c = ':' ∧ inside = false then ([], c :: rest)
    else
      let inside := if c = '[' then true else if c = ']' then false else inside
      (c :: (splitPort inside rest).1, (splitPort inside rest).2)

/-- A port of at most 16 bits; none where no digit or the default of the scheme is given. What
follows it is handed back. -/
def readPort (scheme text : List Char) : Except UrlError (Option Nat × List Char) :=
  let digits := text.takeWhile fun c => '0' ≤ c && c ≤ '9'
  let rest := text.dropWhile fun c => '0' ≤ c && c ≤ '9'
  let value := (Host.numberIn? 10 digits).getD 0
  match rest with
  | c :: _ =>
    if 65535 < value ∨ c ≠ '\\' then .error .invalidPort
    else .ok (if digits.isEmpty || defaultPort? scheme = some value then none else some value, rest)
  | [] =>
    if 65535 < value then .error .invalidPort
    else .ok (if digits.isEmpty || defaultPort? scheme = some value then none else some value, [])

/-- Credentials, host and port. -/
structure Authority where
  credentials : List Char
  host : Option Host
  port : Option Nat
  deriving DecidableEq, Repr

def Authority.empty : Authority := ⟨[], none, none⟩

/-- The host of an authority, by the kind of its scheme. -/
def authorityHost (special : Bool) (text after : List Char) : Except UrlError (Option Host) :=
  if special then
    if text.isEmpty then .error .emptyHost else (Host.ofSpecial text).map some
  else if text.isEmpty && !after.isEmpty then .error .emptyHost
  else Host.ofOpaque text

/-- Reads credentials, host and port; what follows them is handed back. -/
def authority (scheme : List Char) (special : Bool) (text : List Char) :
    Except UrlError (Authority × List Char) :=
  let region := text.takeWhile (!endsAuthority special ·)
  let after := text.dropWhile (!endsAuthority special ·)
  let (credentials, place) := splitCredentials region
  if credentials = some [] ∧ place = [] ∧ after ≠ [] then .error .emptyHost
  else
    let credentials := encodeCredentials (credentials.getD [])
    let (hostText, portText) := splitPort false place
    match authorityHost special hostText portText with
    | .error e => .error e
    | .ok host =>
      match portText with
      | [] =>
        if host = none ∧ credentials ≠ [] then .error .emptyHost
        else .ok (⟨credentials, host, none⟩, after)
      | _ :: digits =>
        match readPort scheme digits with
        | .error e => .error e
        | .ok (number, rest) => .ok (⟨credentials, host, number⟩, rest ++ after)

section Path

/-- A segment that stands for the directory itself. -/
def isSingleDot (segment : List Char) : Bool :=
  String.ofList (segment.map Char.toLower) ∈ [".", "%2e"]

/-- A segment that stands for the directory above. -/
def isDoubleDot (segment : List Char) : Bool :=
  String.ofList (segment.map Char.toLower) ∈ ["..", ".%2e", "%2e.", "%2e%2e"]

/-- A drive letter, which no `..` leaves. -/
def isDriveLetter : List Char → Bool
  | [letter, mark] => letter.isAlpha && (mark = ':' || mark = '|')
  | _ => false

/-- Steps out of the last segment. -/
def leave : List (List Char) → List (List Char)
  | [] => []
  | last :: rest => if isDriveLetter last then last :: rest else rest

/-- Resolves the dots among the segments of a path; `kept` holds those before in reverse. -/
def resolve (kept : List (List Char)) : List (List Char) → List (List Char)
  | [] => kept.reverse
  | [last] =>
    if isDoubleDot last then ([] :: leave kept).reverse
    else if isSingleDot last then ([] :: kept).reverse
    else (last :: kept).reverse
  | segment :: rest =>
    if isDoubleDot segment then resolve (leave kept) rest
    else if isSingleDot segment then resolve kept rest
    else resolve (segment :: kept) rest

/-- The segments of the text of a path, encoded. -/
def segments (special : Bool) (text : List Char) : List (List Char) :=
  let text := if special then text.map fun c => if c = '\\' then '/' else c else text
  let text :=
    match text with
    | '/' :: rest => rest
    | text => text
  (splitOn '/' text).map (encode pathSet)

/-- The normal form of a path. Only the path of a special scheme is never empty. -/
def normalPath (special : Bool) (text : List Char) : List Char :=
  if text.isEmpty && !special then []
  else (resolve [] (segments special text)).flatMap ('/' :: ·)

end Path

/-- The query and the fragment of a text. -/
def queryAndFragment (special : Bool) (text : List Char) : Option (List Char) × Option (List Char) :=
  let front := text.takeWhile (· ≠ '#')
  let fragment :=
    match text.dropWhile (· ≠ '#') with
    | [] => none
    | _ :: rest => some (encode fragmentSet rest)
  let query :=
    match front.dropWhile (· ≠ '?') with
    | [] => none
    | _ :: rest => some (encode (if special then specialQuerySet else querySet) rest)
  (query, fragment)

/-- The text of the path at the front of what follows an authority. -/
def pathText (rest : List Char) : List Char := rest.takeWhile fun c => c ≠ '?' && c ≠ '#'

/-- A URL from its scheme, its authority and the text of the rest. -/
def assemble (scheme : List Char) (special : Bool) (authority : Authority) (rest : List Char) :
    Url :=
  let (query, fragment) := queryAndFragment special rest
  { scheme, credentials := authority.credentials, host := authority.host, port := authority.port,
    path := normalPath special (pathText rest), query, fragment }

/-- Whether the first segment that stays in a path is a drive letter; `kept` as in `resolve`. -/
def startsWithDrive (kept : List (List Char)) : List (List Char) → Bool
  | [] => false
  | segment :: rest =>
    if isDoubleDot segment then startsWithDrive (leave kept) rest
    else if isSingleDot segment then startsWithDrive kept rest
    else (kept.isEmpty && isDriveLetter segment) || startsWithDrive (segment :: kept) rest

/-- The host of a file, which is absent for the local machine and before a drive letter. -/
def fileAuthority (text : List Char) : Except UrlError (Authority × List Char) :=
  let region := text.takeWhile (!endsAuthority true ·)
  let after := text.dropWhile (!endsAuthority true ·)
  if region.isEmpty then .ok (.empty, after)
  else if isDriveLetter region then .ok (.empty, text)
  else
    match Host.ofSpecial region with
    | .error e => .error e
    | .ok host =>
      if host = .domain "localhost".toList ∨ startsWithDrive [] (segments true (pathText after)) then
        .ok (.empty, after)
      else .ok (⟨[], some host, none⟩, after)

def isSlash (c : Char) : Bool := c = '/' || c = '\\'

/-- Reads what follows the colon of a scheme. -/
def ofScheme (scheme rest : List Char) : Except UrlError Url :=
  match kindOf scheme with
  | .special =>
    (authority scheme true (rest.dropWhile isSlash)).map fun (a, rest) => assemble scheme true a rest
  | .file =>
    match rest with
    | a :: b :: more =>
      if isSlash a && isSlash b then
        (fileAuthority more).map fun (a, rest) => assemble scheme true a rest
      else .ok (assemble scheme true .empty rest)
    | rest => .ok (assemble scheme true .empty rest)
  | .other =>
    match rest with
    | '/' :: '/' :: more =>
      (authority scheme false more).map fun (a, rest) => assemble scheme false a rest
    | rest => .ok (assemble scheme false .empty rest)

/-- Reads a URL. -/
def ofText (text : String) : Except UrlError Url :=
  match scheme? (cleaned text.toList) with
  | none => .error .relative
  | some (scheme, rest) => ofScheme scheme rest

/-- Writes a URL that has an authority. -/
def write (url : Url) : String :=
  let host :=
    match url.host with
    | none => []
    | some host => host.text
  let port :=
    match url.port with
    | none => []
    | some n => ':' :: (toString n).toList
  let query :=
    match url.query with
    | none => []
    | some q => '?' :: q
  let fragment :=
    match url.fragment with
    | none => []
    | some f => '#' :: f
  String.ofList
    (url.scheme ++ "://".toList ++ url.credentials ++ host ++ port ++ url.path ++ query ++ fragment)

end Url

end Tendermint
