/-!
# Dates

Days of the Gregorian calendar, counted from 1 January of year 1, and the three fields of a date.
Both directions use the one function `daysBeforeYear`: the year of a day is the last one that has
begun by then, found by walking down from a year that is certainly late enough, and the month is
found by walking along the month lengths of that year.

Week dates number the weeks of a year from the one that holds its first Thursday; a week starts on
Monday.
-/

namespace PrefixDelegation.Calendar

/-- The first year that no date reaches. -/
def yearLimit : Nat := 10000

/-- Whether a year has 366 days. -/
def isLeapYear (year : Nat) : Bool := year % 4 == 0 && (year % 100 != 0 || year % 400 == 0)

/-- The number of days before 1 January of a year. -/
def daysBeforeYear (year : Nat) : Nat :=
  let past := year - 1
  365 * past + past / 4 - past / 100 + past / 400

/-- The lengths of the months of a year. -/
def monthLengths (year : Nat) : List Nat :=
  [31, if isLeapYear year then 29 else 28, 31, 30, 31, 30, 31, 31, 30, 31, 30, 31]

/-- The number of days in a month, zero for a month that does not exist. -/
def daysInMonth (year month : Nat) : Nat :=
  if month = 0 then 0 else (monthLengths year).getD (month - 1) 0

/-- The number of days of a year before the first of a month. -/
def daysBeforeMonth (year month : Nat) : Nat := 
  ((monthLengths year).take (month - 1)).foldl (· + ·) 0

/-- Year, month and day of the month. -/
structure Date where
  year : Nat
  month : Nat
  day : Nat
deriving Repr, DecidableEq

/-- The days from 1 January of year 1 to a date. -/
def Date.toDays (d : Date) : Nat :=
  daysBeforeYear d.year + daysBeforeMonth d.year d.month + (d.day - 1)

/-- The last year not after `year` that has begun by the given day. -/
def lastYearBegun (days : Nat) : (year : Nat) → Nat
  | 0 => 0
  | year + 1 => if daysBeforeYear (year + 1) ≤ days then year + 1 else lastYearBegun days year

/-- The month, counted on from `month`, and the day of the month, counted from 1, that a number of
days leads to along a list of month lengths. -/
def alongMonths : (lengths : List Nat) → (month days : Nat) → Nat × Nat
  | [], month, days => (month, days + 1)
  | length :: rest, month, days =>
    if days < length then (month, days + 1) else alongMonths rest (month + 1) (days - length)

/-- The date a number of days after 1 January of year 1. -/
def Date.ofDays (days : Nat) : Date :=
  let year := lastYearBegun days (days / 365 + 1)
  let (month, day) := alongMonths (monthLengths year) 1 (days - daysBeforeYear year)
  ⟨year, month, day⟩

/-- The days in the calendar, from year 1 to year 9999. -/
def dayLimit : Nat := daysBeforeYear yearLimit

/-! ### Week dates -/

/-- The weekday of a day, from 0 for Monday to 6 for Sunday. -/
def weekday (days : Nat) : Nat := days % 7

/-- The day on which the first week of a year starts, as days since 1 January of year 1, which was
a Monday. -/
def firstWeekStart (year : Nat) : Nat :=
  let first := daysBeforeYear year
  let weekdayOfFirst := weekday first
  if weekdayOfFirst > 3 then first + 7 - weekdayOfFirst else first - weekdayOfFirst

/-- Whether a year has a fifty-third week: it starts on a Thursday, or on a Wednesday when it is a
leap year. -/
def hasLongYear (year : Nat) : Bool :=
  let weekdayOfFirst := weekday (daysBeforeYear year)
  weekdayOfFirst == 3 || (weekdayOfFirst == 2 && isLeapYear year)

/-- The day of a week date, if the year has that week and the week has that day. -/
def ofWeekDate? (year week day : Nat) : Option Nat :=
  if year < 1 || year ≥ yearLimit then none
  else if week < 1 || week > 53 || (week == 53 && !hasLongYear year) then none
  else if day < 1 || day > 7 then none
  else some (firstWeekStart year + 7 * (week - 1) + (day - 1))

end PrefixDelegation.Calendar
