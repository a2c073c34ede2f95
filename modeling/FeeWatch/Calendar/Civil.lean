/-! The Gregorian calendar, extended to the years before it was introduced.

Days are counted from 1 January of the year 1, a Monday. `dayNumber` numbers the
days of the calendar; `ofDayNumber` reads a number back as year, month and day. -/
namespace FeeWatch.Calendar

/-- A year, a month from 1 to 12 and a day of the month. -/
structure Date where
  year : Nat
  month : Nat
  day : Nat
deriving DecidableEq, Repr, Inhabited

/-- Every fourth year is a leap year, but of the full centuries only every fourth. -/
def isLeap (year : Nat) : Bool :=
  year % 4 == 0 && (year % 100 != 0 || year % 400 == 0)

def monthLengths (leap : Bool) : List Nat :=
  [31, if leap then 29 else 28, 31, 30, 31, 30, 31, 31, 30, 31, 30, 31]

/-- The length of a month, zero for a month that no year has. -/
def monthLength (year month : Nat) : Nat :=
  if month = 0 then 0 else (monthLengths (isLeap year))[month - 1]?.getD 0

/-- The days before 1 January of a year. -/
def daysBeforeYear (year : Nat) : Nat :=
  (year - 1) * 365 + (year - 1) / 4 - (year - 1) / 100 + (year - 1) / 400

def dayNumber (d : Date) : Nat :=
  daysBeforeYear d.year + ((monthLengths (isLeap d.year)).take (d.month - 1)).foldl (· + ·) 0 +
    (d.day - 1)

/-- Splits a day of the year, counted from zero, into month and day of the month, both counted
from zero. -/
def splitMonth : List Nat → Nat → Nat × Nat
  | [], day => (0, day)
  | length :: rest, day =>
    if day < length then (0, day)
    else
      let (month, day) := splitMonth rest (day - length)
      (month + 1, day)

/-- The year that a day falls in: four centuries have 146097 days, so the estimate is off by one
year at most. -/
def yearOf (n : Nat) : Nat :=
  let year := n * 400 / 146097 + 1
  if n < daysBeforeYear year then year - 1
  else if daysBeforeYear (year + 1) ≤ n then year + 1
  else year

def ofDayNumber (n : Nat) : Date :=
  let year := yearOf n
  let (month, day) := splitMonth (monthLengths (isLeap year)) (n - daysBeforeYear year)
  ⟨year, month + 1, day + 1⟩

/-- The day of the week, 0 for Monday to 6 for Sunday. -/
def weekday (n : Nat) : Nat := n % 7

/-- The Monday of a year's first week, the week that holds the year's first Thursday. -/
def firstMonday (year : Nat) : Nat :=
  let first := daysBeforeYear year
  let monday := first - weekday first
  if 3 < weekday first then monday + 7 else monday

/-- Whether a year has a given week: the 53rd only if the year starts on a Thursday, or is a leap
year that starts on a Wednesday. -/
def hasWeek (year week : Nat) : Bool :=
  let start := weekday (daysBeforeYear year)
  1 ≤ week && (week ≤ 52 || (week == 53 && (start == 3 || (start == 2 && isLeap year))))

/-- The day of a week date: year, week, and day of the week from 1 to 7. The weeks of a year 0
lie before the first month, and get a date without one. -/
def weekDate? (year week day : Nat) : Option Date :=
  if hasWeek year week ∧ 1 ≤ day ∧ day ≤ 7 then
    if year = 0 then some ⟨1, 0, 1⟩
    else some (ofDayNumber (firstMonday year + (week - 1) * 7 + (day - 1)))
  else none

end FeeWatch.Calendar
