/-!
# Dates

Dates of the Gregorian calendar, reckoned forward and backward without end of the old calendar.  A
date has a day number: the first day of the year one is day one.
-/

namespace HttpScript

/-- A day of the calendar. -/
structure Date where
  year : Nat
  month : Nat
  day : Nat
deriving DecidableEq, Repr

namespace Date

/-- The last year that a date may lie in; the first one is one. -/
def maxYear : Nat := 9999

/-- Whether a year has a leap day. -/
def isLeap (year : Nat) : Bool :=
  year % 4 == 0 && (year % 100 != 0 || year % 400 == 0)

/-- The lengths of the months of a year. -/
def monthLengths (year : Nat) : List Nat :=
  [31, if isLeap year then 29 else 28, 31, 30, 31, 30, 31, 31, 30, 31, 30, 31]

/-- The number of days of a month. -/
def monthLength (year month : Nat) : Nat :=
  (monthLengths year).getD (month - 1) 0

/-- The number of days before a year. -/
def daysBeforeYear (year : Nat) : Nat :=
  let past := year - 1
  365 * past + past / 4 - past / 100 + past / 400

/-- The number of days of a year before a month. -/
def daysBeforeMonth (year month : Nat) : Nat :=
  ((monthLengths year).take (month - 1)).foldl (· + ·) 0

/-- The day number of a date. -/
def dayNumber (date : Date) : Nat :=
  daysBeforeYear date.year + daysBeforeMonth date.year date.month + date.day

/-- The last day number. -/
def maxDayNumber : Nat := daysBeforeYear (maxYear + 1)

/-- The month and the day of a day counted from zero through months of given lengths. -/
def inMonths (month : Nat) : List Nat → Nat → Nat × Nat
  | [], day => (month, day + 1)
  | length :: rest, day =>
      if day < length then (month, day + 1) else inMonths (month + 1) rest (day - length)

/-- The year of a day counted from zero, and the day of that year counted from zero.  Four hundred
years have one length, and so have the first centuries of these, the first groups of four years of
a century, and the first years of such a group. -/
def inYears (day : Nat) : Nat × Nat :=
  let (cycles, day) := (day / 146097, day % 146097)
  let centuries := min (day / 36524) 3
  let day := day - 36524 * centuries
  let (groups, day) := (day / 1461, day % 1461)
  let years := min (day / 365) 3
  (400 * cycles + 100 * centuries + 4 * groups + years + 1, day - 365 * years)

/-- The date of a day number. -/
def ofDayNumber (number : Nat) : Date :=
  let (year, day) := inYears (number - 1)
  let (month, day) := inMonths 1 (monthLengths year) day
  ⟨year, month, day⟩

/-- The day of the week, counted from zero for Monday. -/
def weekday (date : Date) : Nat :=
  (date.dayNumber + 6) % 7

/-- A date that the calendar has, in the years one to 9999. -/
def Valid (date : Date) : Prop :=
  1 ≤ date.year ∧ date.year ≤ maxYear ∧ 1 ≤ date.month ∧ date.month ≤ 12 ∧
    1 ≤ date.day ∧ date.day ≤ monthLength date.year date.month

end Date

end HttpScript
