import Tendermint.Time.Calendar

/-!
# Tendermint.Time.Timestamp

Points in time with an offset from UTC, to the nanosecond, and their text in RFC 3339, where any
one character of ASCII may stand between date and time.

A text is read from left to right. The parts are cut out first, with the range of the offset
checked where it stands; then nothing may follow; then month, day, hour, minute and second are
checked in this order. A second of 60 stands for the last nanosecond before it, and only where
a leap second can be: at the end of the last day of a month in UTC.

* `Timestamp.ofText`: reads a text.
* `Timestamp.display`: date, time and offset with blanks between them.
* `Timestamp.unixSeconds`: whole seconds since 1970, rounded down.
-/

namespace Tendermint

/-- A local date and time of day with the offset from UTC in minutes. -/
structure Timestamp where
  date : Date
  hour : Nat
  minute : Nat
  second : Nat
  nanosecond : Nat
  offsetMinutes : Int
  deriving DecidableEq, Repr

/-- The parts of a time that a text can get wrong. -/
inductive TimePart where
  | year
  | month
  | day
  /-- What stands between date and time. -/
  | separator
  | hour
  | minute
  | second
  | subsecond
  | offsetHour
  | offsetMinute
  deriving DecidableEq, Repr

def TimePart.name : TimePart → String
  | .year => "year"
  | .month => "month"
  | .day => "day"
  | .separator => "separator"
  | .hour => "hour"
  | .minute => "minute"
  | .second => "second"
  | .subsecond => "subsecond"
  | .offsetHour => "offset hour"
  | .offsetMinute => "offset minute"

/-- Why a text is not a time. -/
inductive TimeError where
  | unreadable (part : TimePart)
  | outOfRange (part : TimePart)
  | literal
  | trailing
  deriving DecidableEq, Repr

def TimeError.message : TimeError → String
  | .unreadable part => "the '" ++ part.name ++ "' component could not be parsed"
  | .outOfRange part => part.name ++ " was not in range"
  | .literal => "a character literal was not valid"
  | .trailing => "unexpected trailing characters; the end of input was expected"

namespace Timestamp

def secondsPerDay : Int := 86400

/-- Seconds from local midnight. -/
def secondOfDay (t : Timestamp) : Int := t.hour * 3600 + t.minute * 60 + t.second

def offsetSeconds (t : Timestamp) : Int := t.offsetMinutes * 60

/-- Whole seconds since the first of January 1970 in UTC, rounded down. -/
def unixSeconds (t : Timestamp) : Int :=
  t.date.unixDay * secondsPerDay + t.secondOfDay - t.offsetSeconds

/-- The date in UTC; an offset is less than a day. -/
def utcDate (t : Timestamp) : Date :=
  t.date.shiftedByOne ((t.secondOfDay - t.offsetSeconds) / secondsPerDay)

/-- Whether a leap second can follow: the last second of a month in UTC, in the years up to
9999. -/
def atLeapSecond (t : Timestamp) : Bool :=
  (t.secondOfDay - t.offsetSeconds) % secondsPerDay = secondsPerDay - 1 &&
    t.utcDate.isLastOfMonth && t.utcDate.year ≤ 9999

section Reading

def digit? (c : Char) : Option Nat :=
  if '0' ≤ c ∧ c ≤ '9' then some (c.toNat - 48) else none

/-- Exactly `count` digits, whatever follows. -/
def number? : Nat → Nat → List Char → Option (Nat × List Char)
  | 0, value, text => some (value, text)
  | _ + 1, _, [] => none
  | count + 1, value, c :: rest =>
    match digit? c with
    | none => none
    | some d => number? count (value * 10 + d) rest

/-- A part of `count` digits. -/
def part (name : TimePart) (count : Nat) (text : List Char) :
    Except TimeError (Nat × List Char) :=
  match number? count 0 text with
  | none => .error (.unreadable name)
  | some found => .ok found

/-- The character that has to stand between two parts. -/
def literal (expected : Char) : List Char → Except TimeError (List Char)
  | [] => .error .literal
  | c :: rest => if c = expected then .ok rest else .error .literal

/-- Any one byte may stand between date and time. Of a longer character the hour would have to
begin in the middle. -/
def separator : List Char → Except TimeError (List Char)
  | [] => .error (.unreadable .separator)
  | c :: rest => if c.toNat < 128 then .ok rest else .error (.unreadable .hour)

/-- The digits of a fraction in nanoseconds; those past the ninth count nothing. -/
def fraction (value unit : Nat) : List Char → Nat × List Char
  | [] => (value, [])
  | c :: rest =>
    match digit? c with
    | none => (value, c :: rest)
    | some d => fraction (value + d * unit) (unit / 10) rest

/-- The nanoseconds after a point, or none without one. -/
def subsecond : List Char → Except TimeError (Nat × List Char)
  | '.' :: c :: rest =>
    match digit? c with
    | none => .error (.unreadable .subsecond)
    | some _ => .ok (fraction 0 100000000 (c :: rest))
  | ['.'] => .error (.unreadable .subsecond)
  | text => .ok (0, text)

/-- Hours and minutes after the sign of an offset. -/
def signedOffset (negative : Bool) (text : List Char) : Except TimeError (Int × List Char) := do
  let (hour, text) ← part .offsetHour 2 text
  if 23 < hour then .error (.unreadable .offsetHour)
  else
    let text ← literal ':' text
    let (minute, text) ← part .offsetMinute 2 text
    if 59 < minute then .error (.outOfRange .offsetMinute)
    else
      let minutes : Int := hour * 60 + minute
      .ok (if negative then -minutes else minutes, text)

/-- The offset in minutes: a `Z`, or a sign, hours and minutes. -/
def offset : List Char → Except TimeError (Int × List Char)
  | [] => .error (.unreadable .offsetHour)
  | c :: rest =>
    if c = 'Z' ∨ c = 'z' then .ok (0, rest)
    else if c = '+' then signedOffset false rest
    else if c = '-' then signedOffset true rest
    else .error (.unreadable .offsetHour)

/-- The parts of a text before their ranges are known; a month of zero is no month. -/
def parts (text : List Char) : Except TimeError (Timestamp × List Char) := do
  let (year, text) ← part .year 4 text
  let text ← literal '-' text
  let (month, text) ← part .month 2 text
  if month = 0 then .error (.unreadable .month)
  else
    let text ← literal '-' text
    let (day, text) ← part .day 2 text
    let text ← separator text
    let (hour, text) ← part .hour 2 text
    let text ← literal ':' text
    let (minute, text) ← part .minute 2 text
    let text ← literal ':' text
    let (second, text) ← part .second 2 text
    let (nanosecond, text) ← subsecond text
    let (offsetMinutes, text) ← offset text
    .ok (⟨⟨year, month, day⟩, hour, minute, second, nanosecond, offsetMinutes⟩, text)

/-- Checks the ranges; a second of 60 becomes the last nanosecond before it. -/
def checked (t : Timestamp) : Except TimeError Timestamp :=
  let leap := t.second = 60
  let t := if leap then { t with second := 59, nanosecond := 999999999 } else t
  if 12 < t.date.month then .error (.outOfRange .month)
  else if t.date.day = 0 ∨ Date.monthLength t.date.year t.date.month < t.date.day then
    .error (.outOfRange .day)
  else if 23 < t.hour then .error (.outOfRange .hour)
  else if 59 < t.minute then .error (.outOfRange .minute)
  else if 59 < t.second then .error (.outOfRange .second)
  else if leap ∧ t.atLeapSecond = false then .error (.outOfRange .second)
  else .ok t

/-- Reads a time. -/
def ofText (text : String) : Except TimeError Timestamp :=
  match parts text.toList with
  | .error e => .error e
  | .ok (t, []) => checked t
  | .ok (_, _ :: _) => .error .trailing

end Reading

section Writing

/-- A number with zeros in front up to a width. -/
def padded (width n : Nat) : String :=
  let text := toString n
  String.ofList (List.replicate (width - text.length) '0') ++ text

/-- A fraction of nine places without final zeros, but with one digit at least. -/
def fractionText (nanosecond : Nat) : String :=
  let digits := ((padded 9 nanosecond).toList.reverse.dropWhile (· = '0')).reverse
  if digits.isEmpty then "0" else String.ofList digits

/-- Date, time and offset; the hour is not padded. -/
def display (t : Timestamp) : String :=
  let sign := if t.offsetMinutes < 0 then "-" else "+"
  let offset := t.offsetMinutes.natAbs
  padded 4 t.date.year.toNat ++ "-" ++ padded 2 t.date.month ++ "-" ++ padded 2 t.date.day ++ " " ++
    toString t.hour ++ ":" ++ padded 2 t.minute ++ ":" ++ padded 2 t.second ++ "." ++
    fractionText t.nanosecond ++ " " ++
    sign ++ padded 2 (offset / 60) ++ ":" ++ padded 2 (offset % 60) ++ ":00"

end Writing

end Timestamp

end Tendermint
