import Tendermint.Json.Basic

/-!
# Tendermint.Json.Token

JSON text cut into tokens. The scanner is a machine with one state per kind of token; it takes
one character at a time and never looks back.

* `Scanner.step`: one character.
* `Token.scan`: all of a text, or `none` where some token is malformed.
* `Number.ofText?`: the grammar of numbers and the value each one has.
-/

namespace Tendermint

/-- A token of JSON text. Numbers and the three words are values already. -/
inductive Token where
  | beginArray
  | endArray
  | beginObject
  | endObject
  | colon
  | comma
  | scalar (value : Json)
  | text (value : String)
  deriving Repr

namespace Number

def digit? (c : Char) : Option Nat :=
  if '0' ≤ c ∧ c ≤ '9' then some (c.toNat - 48) else none

/-- The leading digits of a text and what follows them. -/
def digits : List Char → List Nat × List Char
  | [] => ([], [])
  | c :: rest =>
    match digit? c with
    | none => ([], c :: rest)
    | some d => (d :: (digits rest).1, (digits rest).2)

/-- A decimal significand under construction. It has 64 bits: once an integer digit no longer
fits, that digit and those after it only raise the power of ten. -/
structure Significand where
  value : Nat
  exponent : Int
  full : Bool
  deriving DecidableEq, Repr

namespace Significand

def fits (value digit : Nat) : Bool := value * 10 + digit < UInt64.size

/-- One digit before the decimal point. -/
def integerDigit (s : Significand) (digit : Nat) : Significand :=
  if s.full then { s with exponent := s.exponent + 1 }
  else if fits s.value digit then { s with value := s.value * 10 + digit }
  else { s with exponent := s.exponent + 1, full := true }

/-- One digit after the decimal point; past the first that does not fit they are dropped. -/
def fractionDigit (s : Significand) (digit : Nat) : Significand :=
  if s.full then s
  else if fits s.value digit then
    { s with value := s.value * 10 + digit, exponent := s.exponent - 1 }
  else { s with full := true }

def ofInteger (digits : List Nat) : Significand :=
  digits.foldl integerDigit ⟨0, 0, false⟩

def addFraction (s : Significand) (digits : List Nat) : Significand :=
  digits.foldl fractionDigit { s with full := false }

end Significand

/-- The number that a list of decimal digits stands for. -/
def natOfDigits (digits : List Nat) : Nat := digits.foldl (fun n d => n * 10 + d) 0

/-- An exponent: the mark, an optional sign, and at least one digit. -/
def exponentPart : List Char → Option Int
  | [] => none
  | mark :: rest =>
    if mark = 'e' ∨ mark = 'E' then
      let (negative, rest) :=
        match rest with
        | '+' :: rest => (false, rest)
        | '-' :: rest => (true, rest)
        | rest => (false, rest)
      match digits rest with
      | ([], _) => none
      | (ds, []) => some (if negative then -(natOfDigits ds : Int) else natOfDigits ds)
      | (_, _ :: _) => none
    else none

/-- A binary64 number, refused when it is too large. -/
def real? (negative : Bool) (s : Significand) (exponent : Int) : Option Number :=
  (Binary64.ofDecimal negative s.value (s.exponent + exponent)).map .real

/-- A number without point and exponent. A negative one that is zero or does not fit the
signed range is binary64. -/
def whole? (negative : Bool) (s : Significand) : Option Number :=
  if s.full then real? negative s 0
  else if negative then
    if s.value = 0 ∨ -s.value < Int64.minValue.toInt then real? true s 0
    else some (.integer (-s.value))
  else some (.integer s.value)

/-- Reads a number. There is no leading zero, and a digit follows the point and the mark. -/
def ofChars? (text : List Char) : Option Number :=
  let (negative, text) :=
    match text with
    | '-' :: rest => (true, rest)
    | text => (false, text)
  match digits text with
  | ([], _) => none
  | (0 :: _ :: _, _) => none
  | (ds, rest) =>
    let s := Significand.ofInteger ds
    match rest with
    | [] => whole? negative s
    | '.' :: rest =>
      match digits rest with
      | ([], _) => none
      | (fs, []) => real? negative (s.addFraction fs) 0
      | (fs, rest) => (exponentPart rest).bind (real? negative (s.addFraction fs))
    | rest => (exponentPart rest).bind (real? negative s)

end Number

/-- What the scanner is in the middle of. The characters read so far stand in reverse. -/
inductive Scanner where
  | blank
  | word (read : List Char)
  | number (read : List Char)
  | text (read : List Char)
  | escape (read : List Char)
  | unicode (read : List Char) (high : Option Nat) (digits value : Nat)
  | surrogate (read : List Char) (high : Nat)
  | surrogateEscape (read : List Char) (high : Nat)
  deriving Repr

namespace Scanner

def isBlank (c : Char) : Bool := c = ' ' || c = '\t' || c = '\n' || c = '\r'

def isWordChar (c : Char) : Bool := 'a' ≤ c && c ≤ 'z'

def isNumberChar (c : Char) : Bool :=
  (Number.digit? c).isSome || c = '-' || c = '+' || c = '.' || c = 'e' || c = 'E'

def word? (read : List Char) : Option Token :=
  match String.ofList read.reverse with
  | "null" => some (.scalar .null)
  | "true" => some (.scalar (.bool true))
  | "false" => some (.scalar (.bool false))
  | _ => none

def number? (read : List Char) : Option Token :=
  (Number.ofChars? read.reverse).map fun n => .scalar (.number n)

/-- The first character of a token. -/
def start (c : Char) : Option (Scanner × List Token) :=
  if isBlank c then some (.blank, [])
  else if c = '[' then some (.blank, [.beginArray])
  else if c = ']' then some (.blank, [.endArray])
  else if c = '\x7b' then some (.blank, [.beginObject])
  else if c = '\x7d' then some (.blank, [.endObject])
  else if c = ':' then some (.blank, [.colon])
  else if c = ',' then some (.blank, [.comma])
  else if c = '"' then some (.text [], [])
  else if c = '-' || (Number.digit? c).isSome then some (.number [c], [])
  else if isWordChar c then some (.word [c], [])
  else none

/-- A word or a number ends where another kind of character begins a new token. -/
def close (token : Option Token) (c : Char) : Option (Scanner × List Token) :=
  match token, start c with
  | some t, some (state, more) => some (state, t :: more)
  | _, _ => none

def escapedChar? (c : Char) : Option Char :=
  if c = '"' then some '"'
  else if c = '\\' then some '\\'
  else if c = '/' then some '/'
  else if c = 'b' then some '\x08'
  else if c = 'f' then some '\x0c'
  else if c = 'n' then some '\n'
  else if c = 'r' then some '\r'
  else if c = 't' then some '\t'
  else none

def hexValue? (c : Char) : Option Nat :=
  if '0' ≤ c ∧ c ≤ '9' then some (c.toNat - 48)
  else if 'a' ≤ c ∧ c ≤ 'f' then some (c.toNat - 87)
  else if 'A' ≤ c ∧ c ≤ 'F' then some (c.toNat - 55)
  else none

def isHighSurrogate (n : Nat) : Bool := 0xD800 ≤ n && n < 0xDC00

def isLowSurrogate (n : Nat) : Bool := 0xDC00 ≤ n && n < 0xE000

/-- The code unit of a finished four-digit escape. A high surrogate waits for its low half;
a half on its own is refused. -/
def codeUnit (read : List Char) (high : Option Nat) (unit : Nat) : Option Scanner :=
  match high with
  | some h =>
    if isLowSurrogate unit then
      some (.text (Char.ofNat (0x10000 + (h - 0xD800) * 0x400 + (unit - 0xDC00)) :: read))
    else none
  | none =>
    if isHighSurrogate unit then some (.surrogate read unit)
    else if isLowSurrogate unit then none
    else some (.text (Char.ofNat unit :: read))

/-- Takes one character, and gives the tokens that it completes. -/
def step : Scanner → Char → Option (Scanner × List Token)
  | .blank, c => start c
  | .word read, c => if isWordChar c then some (.word (c :: read), []) else close (word? read) c
  | .number read, c =>
    if isNumberChar c then some (.number (c :: read), []) else close (number? read) c
  | .text read, c =>
    if c = '"' then some (.blank, [.text (String.ofList read.reverse)])
    else if c = '\\' then some (.escape read, [])
    else if c.toNat < 32 then none
    else some (.text (c :: read), [])
  | .escape read, c =>
    if c = 'u' then some (.unicode read none 0 0, [])
    else (escapedChar? c).map fun e => (.text (e :: read), [])
  | .unicode read high digits value, c =>
    match hexValue? c with
    | none => none
    | some d =>
      if digits < 3 then some (.unicode read high (digits + 1) (value * 16 + d), [])
      else (codeUnit read high (value * 16 + d)).map fun state => (state, [])
  | .surrogate read high, c => if c = '\\' then some (.surrogateEscape read high, []) else none
  | .surrogateEscape read high, c =>
    if c = 'u' then some (.unicode read (some high) 0 0, []) else none

/-- The end of the text completes a word or a number, and is an error inside a string. -/
def finish : Scanner → Option (List Token)
  | .blank => some []
  | .word read => (word? read).map fun t => [t]
  | .number read => (number? read).map fun t => [t]
  | _ => none

/-- Runs the scanner to the end of the text; `tokens` holds those already found, in reverse. -/
def run (state : Scanner) (tokens : List Token) : List Char → Option (List Token)
  | [] => state.finish.map fun last => (last.reverse ++ tokens).reverse
  | c :: rest =>
    match state.step c with
    | none => none
    | some (next, found) => run next (found.reverse ++ tokens) rest

end Scanner

/-- The tokens of a text. -/
def Token.scan (text : String) : Option (List Token) := Scanner.blank.run [] text.toList

end Tendermint
