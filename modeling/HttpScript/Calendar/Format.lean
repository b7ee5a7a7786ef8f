import HttpScript.Calendar.DateTime

/-!
# Formats of date-times

A date-time is written in one of two standard forms or by a pattern.  In a pattern, fields such as
`yyyy` and `HH` stand for parts of the date-time, text between single quotes stands for itself, two
single quotes stand for one, and every other character stands for itself.
-/

namespace HttpScript.DateTime

/-- A number in at least a number of digits. -/
def padded (width n : Nat) : Text :=
  Text.zeroPadded width (Text.ofNat n)

/-- The names of the months. -/
def monthNames : List Text :=
  ["January", "February", "March", "April", "May", "June", "July", "August", "September",
    "October", "November", "December"]

/-- The names of the days of the week. -/
def dayNames : List Text :=
  ["Monday", "Tuesday", "Wednesday", "Thursday", "Friday", "Saturday", "Sunday"]

/-- The name of the month. -/
def monthName (moment : DateTime) : Text :=
  monthNames.getD (moment.date.month - 1) []

/-- The name of the day of the week. -/
def dayName (moment : DateTime) : Text :=
  dayNames.getD moment.date.weekday []

/-- The hour on a dial of twelve hours. -/
def dialHour (moment : DateTime) : Nat :=
  if moment.hour % 12 = 0 then 12 else moment.hour % 12

/-- The offset in hours and minutes with a sign, cut down to whole minutes. -/
def offsetText (separator : Text) (moment : DateTime) : Text :=
  let minutes := moment.offset.getD 0 / 60
  let size := minutes.natAbs
  (if minutes < 0 then '-' else '+') :: padded 2 (size / 60) ++ separator ++ padded 2 (size % 60)

/-- The fields of patterns.  Where several begin alike the first in this order is taken. -/
def fields : List (Text × (DateTime → Text)) :=
  [("yyyy", fun moment => padded 4 moment.date.year),
    ("yy", fun moment => padded 2 (moment.date.year % 100)),
    ("MMMM", monthName),
    ("MMM", fun moment => moment.monthName.take 3),
    ("MM", fun moment => padded 2 moment.date.month),
    ("M", fun moment => Text.ofNat moment.date.month),
    ("dd", fun moment => padded 2 moment.date.day),
    ("d", fun moment => Text.ofNat moment.date.day),
    ("EEEE", dayName),
    ("EEE", fun moment => moment.dayName.take 3),
    ("HH", fun moment => padded 2 moment.hour),
    ("H", fun moment => Text.ofNat moment.hour),
    ("hh", fun moment => padded 2 moment.dialHour),
    ("h", fun moment => Text.ofNat moment.dialHour),
    ("mm", fun moment => padded 2 moment.minute),
    ("m", fun moment => Text.ofNat moment.minute),
    ("ss", fun moment => padded 2 moment.second),
    ("s", fun moment => Text.ofNat moment.second),
    ("SSS", fun moment => padded 3 (moment.microsecond / 1000)),
    ("a", fun moment => if moment.hour < 12 then "AM" else "PM"),
    ("xxx", offsetText [':']),
    ("xx", offsetText []),
    ("XXX", fun moment =>
      if moment.offset.getD 0 = 0 then "Z".toList else offsetText [':'] moment)]

/-- The field at the beginning of a pattern and what follows it. -/
def field? (pattern : Text) : Option ((DateTime → Text) × Text) :=
  fields.findSome? fun (name, value) =>
    (Text.after? name pattern).map fun rest => (value, rest)

/-- The text that the beginning of a pattern stands for, and the rest of the pattern. -/
def formatPart (moment : DateTime) (c : Char) (rest : Text) : Text × Text :=
  let part := if c = '\'' then
      (Text.splitAt? '\'' rest).map fun (literal, rest) =>
        (if literal.isEmpty then ['\''] else literal, rest)
    else (field? (c :: rest)).map fun (value, rest) => (value moment, rest)
  part.getD ([c], rest)

/-- Writes a date-time by a pattern of at most a number of parts. -/
def formatParts (moment : DateTime) : Nat → Text → Text
  | 0, _ => []
  | _ + 1, [] => []
  | parts + 1, c :: rest =>
      let (text, rest) := formatPart moment c rest
      text ++ formatParts moment parts rest

/-- Writes a date-time by a pattern. -/
def format (moment : DateTime) (pattern : Text) : Text :=
  formatParts moment pattern.length pattern

/-- The standard form of date, time to the second, and offset. -/
def iso8601 (moment : DateTime) : Text :=
  moment.format "yyyy-MM-dd'T'HH:mm:ss" ++
    (if moment.offset.isSome then offsetText [':'] moment else [])

/-- The standard form in messages, by universal time. -/
def rfc1123 (moment : DateTime) : Except ShiftFault Text := do
  let universal ← moment.withOffset 0
  return universal.format "EEE, dd MMM yyyy HH:mm:ss 'GMT'"

end HttpScript.DateTime
