/-!
# Dates

The proleptic Gregorian calendar over a fixed range of years.  Dates are counted as days from the
first of January 1970, which turns moving a date by days into an addition.

## Strategy

A year is taken to begin in March, so that the leap day is its last day.  Then the day within a year
depends on the month alone, and 400 years always have the same number of days.
-/

namespace ToolAssistant

/-- A day of the calendar. -/
structure Date where
  year : Int
  month : Nat
  day : Nat
  deriving DecidableEq, Repr

namespace Date

/-- Is the year a leap year? -/
def isLeapYear (year : Int) : Bool :=
  year % 4 == 0 && (year % 100 != 0 || year % 400 == 0)

/-- The number of days of a month. -/
def daysInMonth (year : Int) (month : Nat) : Nat :=
  if month = 2 then (if isLeapYear year then 29 else 28)
  else if month = 4 ∨ month = 6 ∨ month = 9 ∨ month = 11 then 30
  else 31

/-- First and last year of the calendar. -/
def minYear : Int := -262143

@[inherit_doc minYear]
def maxYear : Int := 262142

/-- Does the calendar have this date? -/
def IsValid (date : Date) : Prop :=
  minYear ≤ date.year ∧ date.year ≤ maxYear ∧ 1 ≤ date.month ∧ date.month ≤ 12 ∧ 1 ≤ date.day ∧
    date.day ≤ daysInMonth date.year date.month

instance (date : Date) : Decidable date.IsValid :=
  inferInstanceAs (Decidable (_ ∧ _))

/-- Days in 400 years. -/
def daysPerEra : Int := 146097

/-- Days from the first of March of year 0 to the first of January 1970. -/
def epochShift : Int := 719468

/-- The number of days from the first of January 1970 to a date. -/
def toDayNumber (date : Date) : Int :=
  let year := if date.month ≤ 2 then date.year - 1 else date.year
  let month := if date.month ≤ 2 then date.month + 9 else date.month - 3
  let yearOfEra := year % 400
  let dayOfYear : Int := ((153 * month + 2) / 5 + date.day : Nat) - 1
  let dayOfEra := yearOfEra * 365 + yearOfEra / 4 - yearOfEra / 100 + dayOfYear
  year / 400 * daysPerEra + dayOfEra - epochShift

/-- The date that lies a number of days after the first of January 1970. -/
def ofDayNumber (days : Int) : Date :=
  let shifted := days + epochShift
  let dayOfEra := shifted % daysPerEra
  let yearOfEra := (dayOfEra - dayOfEra / 1460 + dayOfEra / 36524 - dayOfEra / 146096) / 365
  let dayOfYear := dayOfEra - (365 * yearOfEra + yearOfEra / 4 - yearOfEra / 100)
  let month := (5 * dayOfYear + 2) / 153
  let year := yearOfEra + shifted / daysPerEra * 400
  { year := if month < 10 then year else year + 1
    month := (if month < 10 then month + 3 else month - 9).toNat
    day := (dayOfYear - (153 * month + 2) / 5 + 1).toNat }

/-- The date moved by a number of days, if the calendar has it. -/
def addDays? (date : Date) (days : Int) : Option Date :=
  let shifted := ofDayNumber (date.toDayNumber + days)
  if shifted.IsValid then some shifted else none

/-- The date a number of days on, if the calendar has it. -/
def later? (date : Date) (days : Nat) : Option Date :=
  date.addDays? days

/-- The date a number of days back, if the calendar has it. -/
def earlier? (date : Date) (days : Nat) : Option Date :=
  date.addDays? (-days)

/-- A number with at least `width` digits. -/
def padded (width n : Nat) : String :=
  let digits := Nat.toDigits 10 n
  String.ofList (List.replicate (width - digits.length) '0' ++ digits)

/-- A year: four digits, and a sign outside 0 to 9999. -/
def yearText (year : Int) : String :=
  let sign := if year < 0 then "-" else if year > 9999 then "+" else ""
  sign ++ padded 4 year.natAbs

/-- The date as year, month and day. -/
def text (date : Date) : String :=
  yearText date.year ++ "-" ++ padded 2 date.month ++ "-" ++ padded 2 date.day

end Date

end ToolAssistant
