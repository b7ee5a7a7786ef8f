import HttpScript.Calendar.DateTime
import HttpScript.Document.Reader
import HttpScript.Redaction

/-!
# Faults

While a request is run two kinds of things go wrong.  A problem is reported as the error of that
request, and the run goes on with the next one.  A breakdown ends the run.
-/

namespace HttpScript

/-- What is reported as the error of one request. -/
inductive Problem
  /-- Placeholders lead back to one of themselves; the repeated one is the last of the list. -/
  | cycle (path : List Text)
  /-- The text of a global variable has a placeholder that only local variables could fill. -/
  | hiddenVariable (name : Text)
  | undefinedVariable (name : Text)
  | unknownFunction (name : Text)
  | notInteger (value : Text)
  | missingVariableName
  | emptyRange (low high : Int)
  | unknownUnit (unit : Text)
  | badTimestampArguments (arguments : Text)
  | badDatetimeArguments (arguments : Text)
  | badQuery (path : Text)
  | transport (message : Text)
  | document (fault : DocumentFault)

/-- What ends a run. -/
inductive Breakdown
  /-- A bound of a slice is a minus sign without digits. -/
  | loneSign
  /-- A date was moved out of the calendar. -/
  | shift (fault : ShiftFault)
  /-- A place cannot be redacted. -/
  | redaction (fault : Redaction.Fault)
  /-- A header is no longer a name with a value. -/
  | brokenHeader

/-- Anything that goes wrong while a request is run. -/
inductive Fault
  | problem (problem : Problem)
  | breakdown (breakdown : Breakdown)

namespace Problem

/-- The wording of a problem. -/
def message : Problem → Text
  | .cycle path => "variable cycle found: " ++ Text.join " -> " path
  | .hiddenVariable name => "variable not found on global scope: " ++ name
  | .undefinedVariable name => "variable not found: " ++ name
  | .unknownFunction name => "not implemented: $" ++ name
  | .notInteger value => "\"" ++ value ++ "\" is not a integer number"
  | .missingVariableName => "$processEnv needs a variable name"
  | .emptyRange low high =>
      "$randomInt lower bound " ++ Text.ofInt low ++ " is greater than " ++ Text.ofInt high
  | .unknownUnit unit =>
      "unknown offset unit: " ++ unit ++ " (expected one of " ++
        Text.join ", " (ShiftUnit.letters.map Prod.fst) ++ ")"
  | .badTimestampArguments arguments => "invalid $timestamp arguments: " ++ arguments
  | .badDatetimeArguments arguments => "invalid $datetime arguments: " ++ arguments
  | .badQuery path => "invalid query path: " ++ path
  | .transport message => message
  | .document fault => fault.message

end Problem

namespace Fault

/-- The fault of a path that is no query. -/
def ofQuery (path : Text) : Query.ReadFault → Fault
  | .malformed => .problem (.badQuery path)
  | .loneSign => .breakdown .loneSign

/-- The fault of a redaction. -/
def ofRedaction : Redaction.Fault → Fault
  | .badPath path fault => ofQuery path fault
  | fault => .breakdown (.redaction fault)

end Fault

end HttpScript
