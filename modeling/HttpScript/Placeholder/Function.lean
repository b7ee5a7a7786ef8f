import HttpScript.Calendar.Format
import HttpScript.Fault

/-!
# Functions in placeholders

A placeholder that begins with `$` calls a function: `$guid`, `$processEnv HOME`, `$randomInt 1 10`,
`$datetime iso8601 -1 d`, `$timestamp`.  What the functions depend on besides their arguments is a
`Sources` value: the process environment, the clock, the local time zone, the choice of random
numbers and the number of identifiers given out so far, which is all that changes.
-/

namespace HttpScript

/-- How a number is drawn from a range. -/
inductive Draw
  | lowest
  | highest
  | middle
deriving DecidableEq, Repr

/-- What the functions depend on besides their arguments. -/
structure Sources where
  environ : Table Text
  /-- The present time, by universal time. -/
  clock : DateTime
  /-- The minutes by which local time is ahead of universal time. -/
  localOffset : Int
  draw : Draw
  /-- How many unique identifiers were given out. -/
  issued : Nat

/-- A computation that may use up sources, whether it succeeds or not. -/
abbrev Expanding (α : Type) := ExceptT Fault (StateM Sources) α

/-- A number from a range that is not empty. -/
def Draw.pick (low high : Int) : Draw → Int
  | .lowest => low
  | .highest => high
  | .middle => (low + high) / 2

namespace Function

/-- The least number that is drawn when no bound is given. -/
def minInteger : Int := -9223372036854775808

/-- The greatest number that is drawn when no bound is given. -/
def maxInteger : Int := 9223372036854775807

/-- The unique identifier of a number. -/
def identifier (number : Nat) : Text :=
  "00000000-0000-4000-8000-" ++ Text.zeroPadded 12 (Text.ofNat number)

/-- Fails with a problem that is reported. -/
def fail {α : Type} (problem : Problem) : Except Fault α :=
  .error (.problem problem)

/-- A variable of the process environment; one that is not set is empty. -/
def processEnv (sources : Sources) (arguments : Text) : Except Fault Text :=
  match Text.words arguments with
  | [] => fail .missingVariableName
  | name :: _ => .ok ((Table.get? sources.environ name).getD [])

/-- A bound of a range, or its default if there is none. -/
def readBound (default : Int) : Option Text → Except Fault Int
  | none => .ok default
  | some word =>
      match Text.toInt? word with
      | some bound => .ok bound
      | none => fail (.notInteger word)

/-- A random whole number between two bounds. -/
def randomInt (sources : Sources) (arguments : Text) : Except Fault Text := do
  let bounds := Text.words arguments
  let low ← readBound minInteger bounds[0]?
  let high ← readBound maxInteger bounds[1]?
  if low > high then fail (.emptyRange low high)
  else return Text.ofInt (sources.draw.pick low high)

/-! ## Date-times -/

/-- The number and the unit of a shift, from the words of the arguments, if they have the form of
one. -/
def shiftWords? : List Text → Option (Option (Int × Text))
  | [] => some none
  | [count, unit] => do
      let count ← Text.toInt? count
      if unit.all Text.isWord then some (some (count, unit)) else none
  | _ => none

/-- Moves a date-time by a shift, if one is given. -/
def shifted (moment : DateTime) : Option (Int × Text) → Except Fault DateTime
  | none => .ok moment
  | some (count, letter) =>
      match ShiftUnit.letters.lookup letter with
      | none => fail (.unknownUnit letter)
      | some unit => (moment.shift count unit).mapError fun fault => .breakdown (.shift fault)

/-- How a date-time is written. -/
inductive Style
  | iso8601
  | rfc1123
  | pattern (text : Text)

/-- The text between quotes at the beginning, which is not empty, and what follows it. -/
def splitQuoted (quote : Char) (text : Text) : Option (Style × Text) := do
  let (inner, rest) ← Text.splitAt? quote text
  if inner.isEmpty then none else some (.pattern inner, rest)

/-- The style at the beginning of the arguments and what follows it. -/
def splitStyle (arguments : Text) : Option (Style × Text) :=
  ((Text.after? "iso8601" arguments).map fun rest => (.iso8601, rest)) <|>
    ((Text.after? "rfc1123" arguments).map fun rest => (.rfc1123, rest)) <|>
    match arguments with
    | '"' :: rest => splitQuoted '"' rest
    | '\'' :: rest => splitQuoted '\'' rest
    | _ => none

/-- The style and the shift that the arguments ask for. -/
def datetimeArguments? (arguments : Text) : Option (Style × Option (Int × Text)) := do
  let (style, rest) ← splitStyle arguments
  if rest.head?.all Text.isBlank then
    return (style, ← shiftWords? (Text.words rest))
  else none

/-- Writes a date-time in a style. -/
def write (moment : DateTime) : Style → Except Fault Text
  | .iso8601 => .ok moment.iso8601
  | .rfc1123 => moment.rfc1123.mapError fun fault => .breakdown (.shift fault)
  | .pattern text => .ok (moment.format text)

/-- The date-time that the arguments ask for, in the style they ask for. -/
def datetime (now : DateTime) (arguments : Text) : Except Fault Text :=
  match datetimeArguments? arguments with
  | none => fail (.badDatetimeArguments arguments)
  | some (style, shift) => do write (← shifted now shift) style

/-- The present time by the local clock. -/
def localNow (sources : Sources) : Except Fault DateTime :=
  (sources.clock.withOffset (60 * sources.localOffset)).mapError fun fault =>
    .breakdown (.shift fault)

/-- The seconds since 1970. -/
def timestamp (sources : Sources) (arguments : Text) : Except Fault Text :=
  match shiftWords? (Text.words arguments) with
  | none => fail (.badTimestampArguments arguments)
  | some shift => do return Text.ofInt (← shifted sources.clock shift).timestamp

/-- The functions that leave the sources as they are. -/
def steady : List (Text × (Sources → Text → Except Fault Text)) :=
  [("processEnv", processEnv), ("randomInt", randomInt),
    ("datetime", fun sources => datetime sources.clock),
    ("localDatetime", fun sources arguments => do datetime (← localNow sources) arguments),
    ("timestamp", timestamp)]

/-- The names under which a unique identifier is asked for. -/
def identifierNames : List Text := ["guid", "uuid"]

/-- The name of the function of a placeholder, without the mark, and its arguments. -/
def splitCall (call : Text) : Text × Text :=
  let call := (Text.trim call).drop 1
  match Text.splitAt? ' ' call with
  | some (name, arguments) => (name, Text.trim arguments)
  | none => (call, [])

/-- Evaluates a call. -/
def evaluate (call : Text) : Expanding Text := do
  let (name, arguments) := splitCall call
  if identifierNames.contains name then
    let sources ← get
    set { sources with issued := sources.issued + 1 }
    return identifier (sources.issued + 1)
  else match steady.lookup name with
    | some function => liftExcept (function (← get) arguments)
    | none => throw (.problem (.unknownFunction name))
where
  /-- A result that does not depend on what was done before. -/
  liftExcept (result : Except Fault Text) : Expanding Text :=
    match result with
    | .ok text => pure text
    | .error fault => throw fault

end Function

end HttpScript
