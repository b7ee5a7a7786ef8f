import HttpScript.Calendar.Date
import HttpScript.Number.Double

/-!
# Dates with a time of day

A date-time is a date with a time of day and the offset of its clock from universal time.  It can be
moved by a number of units: weeks to seconds are fixed lengths of time, months and years keep the
day of the month as far as the new month has it.
-/

namespace HttpScript

/-- A date with a time of day and an offset, in seconds east of universal time, where one is
known. -/
structure DateTime where
  date : Date
  hour : Nat
  minute : Nat
  second : Nat
  microsecond : Nat
  offset : Option Int
deriving DecidableEq, Repr

/-- A unit by which a date-time is moved. -/
inductive ShiftUnit
  | year
  | month
  | week
  | day
  | hour
  | minute
  | second
deriving DecidableEq, Repr

/-- Why a date-time cannot be moved. -/
inductive ShiftFault
  /-- The year would not be one of the calendar. -/
  | yearOutOfRange
  /-- The day would not be one of the calendar, or the number is too large to be reckoned with. -/
  | outOfReach
deriving DecidableEq, Repr

namespace ShiftUnit

/-- The letters of the units, in the order in which they are listed. -/
def letters : List (Text × ShiftUnit) :=
  [("y", .year), ("M", .month), ("w", .week), ("d", .day), ("h", .hour), ("m", .minute),
    ("s", .second)]

/-- The seconds of a unit of fixed length. -/
def seconds? : ShiftUnit → Option Int
  | .year => none
  | .month => none
  | .week => some 604800
  | .day => some 86400
  | .hour => some 3600
  | .minute => some 60
  | .second => some 1

end ShiftUnit

/-- A year and a month some months on: years and months are added apart, and a month before the
first or behind the twelfth is one of the year before or after. -/
def carryMonths (year month months : Int) : Int × Int :=
  let nextYear := year + months.tdiv 12
  let nextMonth := month + months.tmod 12
  if 12 < nextMonth then (nextYear + 1, nextMonth - 12)
  else if nextMonth < 1 then (nextYear - 1, nextMonth + 12)
  else (nextYear, nextMonth)

namespace DateTime

/-- The seconds of the local clock since the midnight that began day zero. -/
def localSeconds (moment : DateTime) : Int :=
  (moment.date.dayNumber : Int) * 86400 + moment.hour * 3600 + moment.minute * 60 + moment.second

/-- The seconds since the midnight of universal time that began day zero. -/
def universalSeconds (moment : DateTime) : Int :=
  moment.localSeconds - moment.offset.getD 0

/-- The date-time of the same fraction of a second and offset at given seconds of the local
clock. -/
def atLocalSeconds (moment : DateTime) (seconds : Int) : Except ShiftFault DateTime :=
  let number := seconds / 86400
  let rest := (seconds % 86400).toNat
  if 1 ≤ number ∧ number ≤ Date.maxDayNumber then
    .ok { moment with
      date := Date.ofDayNumber number.toNat
      hour := rest / 3600
      minute := rest / 60 % 60
      second := rest % 60 }
  else .error .outOfReach

/-- Moves a date-time by a number of seconds. -/
def addSeconds (moment : DateTime) (seconds : Int) : Except ShiftFault DateTime :=
  moment.atLocalSeconds (moment.localSeconds + seconds)

/-- Years beyond this bound are not reckoned with. -/
def yearBound : Int := 2147483648

/-- The same time on the same day of a month, or on its last day if that is earlier. -/
def inMonth (moment : DateTime) (year month : Nat) : DateTime :=
  { moment with date := ⟨year, month, min moment.date.day (Date.monthLength year month)⟩ }

/-- Moves a date-time to a month, if the year is one of the calendar. -/
def toMonth (moment : DateTime) (year month : Int) : Except ShiftFault DateTime :=
  if year < -yearBound ∨ yearBound ≤ year then .error .outOfReach
  else if year < 1 ∨ (Date.maxYear : Int) < year then .error .yearOutOfRange
  else .ok (moment.inMonth year.toNat month.toNat)

/-- Moves a date-time by a number of months. -/
def addMonths (moment : DateTime) (months : Int) : Except ShiftFault DateTime :=
  let (year, month) := carryMonths moment.date.year moment.date.month months
  moment.toMonth year month

/-- Moves a date-time by a number of units. -/
def shift (moment : DateTime) (count : Int) (unit : ShiftUnit) : Except ShiftFault DateTime :=
  match unit.seconds? with
  | some seconds => moment.addSeconds (seconds * count)
  | none =>
      if unit = .year then moment.toMonth (moment.date.year + count) moment.date.month
      else moment.addMonths count

/-- The same instant by a clock of another offset. -/
def withOffset (moment : DateTime) (offset : Int) : Except ShiftFault DateTime :=
  { moment with offset := some offset }.atLocalSeconds (moment.universalSeconds + offset)

/-- Seconds of universal time from day zero to the beginning of 1970. -/
def epochSeconds : Int :=
  ((Date.mk 1970 1 1).dayNumber : Int) * 86400

/-- The seconds since the beginning of 1970: the microseconds are counted exactly, brought to
seconds as a floating point number, and cut to a whole number toward zero. -/
def timestamp (moment : DateTime) : Int :=
  let microseconds :=
    (moment.universalSeconds - epochSeconds) * 1000000 + moment.microsecond
  let seconds := Double.ofFraction (microseconds < 0) microseconds.natAbs 1000000
  seconds.truncate?.getD 0

end DateTime

end HttpScript
