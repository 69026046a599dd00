/-!
# Tendermint.Time.Calendar

The Gregorian calendar: lengths of months, and days counted from the first of January 1970.
-/

namespace Tendermint

/-- A day of the Gregorian calendar, with months and days counted from one. -/
structure Date where
  year : Int
  month : Nat
  day : Nat
  deriving DecidableEq, Repr

namespace Date

def isLeap (year : Int) : Bool :=
  year % 4 = 0 && (year % 100 ≠ 0 || year % 400 = 0)

def monthLength (year : Int) (month : Nat) : Nat :=
  if month = 2 then if isLeap year then 29 else 28
  else if month = 4 ∨ month = 6 ∨ month = 9 ∨ month = 11 then 30
  else 31

/-- Days from the first of January of year 0 to that of `year`. -/
def daysBeforeYear (year : Int) : Int :=
  365 * year + (year + 3) / 4 - (year + 99) / 100 + (year + 399) / 400

/-- Days of the year before the first of `month`. -/
def daysBeforeMonth (year : Int) : Nat → Nat
  | 0 => 0
  | 1 => 0
  | month + 2 => daysBeforeMonth year (month + 1) + monthLength year (month + 1)

/-- Days since the first of January 1970. -/
def unixDay (date : Date) : Int :=
  daysBeforeYear date.year - 719528 + daysBeforeMonth date.year date.month + (date.day - 1)

def isLastOfMonth (date : Date) : Bool := date.day = monthLength date.year date.month

def next (date : Date) : Date :=
  if date.day < monthLength date.year date.month then { date with day := date.day + 1 }
  else if date.month < 12 then ⟨date.year, date.month + 1, 1⟩
  else ⟨date.year + 1, 1, 1⟩

def previous (date : Date) : Date :=
  if 1 < date.day then { date with day := date.day - 1 }
  else if 1 < date.month then ⟨date.year, date.month - 1, monthLength date.year (date.month - 1)⟩
  else ⟨date.year - 1, 12, 31⟩

/-- The date `days` away, for a distance of at most one day. -/
def shiftedByOne (date : Date) (days : Int) : Date :=
  if days < 0 then date.previous else if 0 < days then date.next else date

end Date

end Tendermint
