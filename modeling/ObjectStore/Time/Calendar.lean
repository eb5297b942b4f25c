/-!
# The proleptic Gregorian calendar

Days are counted from 1 January 1970. Both directions work in eras of 400 years,
which all have 146097 days, with the year beginning in March so that a leap day is
the last of its year.
-/

namespace ObjectStore.Time

/-- A day of the proleptic Gregorian calendar; the year before 1 is 0. -/
structure Date where
  /-- The year. -/
  year : Int
  /-- The month, from 1. -/
  month : Nat
  /-- The day of the month, from 1. -/
  day : Nat
  deriving DecidableEq, Repr

/-- Whether a year has a 29 February. -/
def isLeapYear (year : Int) : Bool :=
  year % 4 = 0 && (year % 100 ≠ 0 || year % 400 = 0)

/-- The number of days of a month. -/
def daysInMonth (year : Int) (month : Nat) : Nat :=
  if month = 2 then (if isLeapYear year then 29 else 28)
  else if month = 4 ∨ month = 6 ∨ month = 9 ∨ month = 11 then 30
  else 31

/-- The day of an era on which one of its 400 years begins. -/
def startOfYear (yearOfEra : Nat) : Nat := 365 * yearOfEra + yearOfEra / 4 - yearOfEra / 100

/-- The year of an era to which one of its 146097 days belongs. -/
def yearOfEra (dayOfEra : Nat) : Nat :=
  (dayOfEra - dayOfEra / 1460 + dayOfEra / 36524 - dayOfEra / 146096) / 365

namespace Date

/-- Whether the calendar has the date. -/
def isValid (d : Date) : Bool :=
  1 ≤ d.month && d.month ≤ 12 && 1 ≤ d.day && d.day ≤ daysInMonth d.year d.month

/-- The number of days from 1 January 1970 to the date. -/
def toDays (d : Date) : Int :=
  let year := if d.month ≤ 2 then d.year - 1 else d.year
  let fromMarch := if d.month ≤ 2 then d.month + 9 else d.month - 3
  let dayOfYear : Int := (153 * fromMarch + 2) / 5 + d.day - 1
  year / 400 * 146097 + startOfYear (year % 400).toNat + dayOfYear - 719468

/-- The date that lies `days` days after 1 January 1970. -/
def ofDays (days : Int) : Date :=
  let shifted := days + 719468
  let dayOfEra := (shifted % 146097).toNat
  let year := yearOfEra dayOfEra
  let dayOfYear := dayOfEra - startOfYear year
  let fromMarch := (5 * dayOfYear + 2) / 153
  let day := dayOfYear - (153 * fromMarch + 2) / 5 + 1
  let month := if fromMarch < 10 then fromMarch + 3 else fromMarch - 9
  ⟨shifted / 146097 * 400 + year + (if month ≤ 2 then 1 else 0), month, day⟩

/-- The weekday, 0 for Sunday; 1 January 1970 was a Thursday. -/
def weekday (d : Date) : Nat := ((d.toDays + 4) % 7).toNat

end Date

end ObjectStore.Time
