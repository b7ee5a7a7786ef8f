import HttpScript.Run.Outcome
import HttpScript.Text.Lines

/-!
# Reports

What happened to one request of a run, and its text: a line with the state and the title, the
error, the expectations that failed, and on demand the headers and the body of the response.
-/

namespace HttpScript

/-- How a request fared. -/
inductive RunState
  | passed
  | failed
  | skipped
  | error
deriving DecidableEq, Repr

/-- What a report is headed by: a text, or the bare fact that a title was asked for. -/
inductive Title
  | text (text : Text)
  | bare
deriving DecidableEq, Repr

/-- What happened to one request of a run. -/
structure Report where
  title : Title
  state : RunState
  outcome : Option Outcome
  redacted : Option Json
  failures : List Text
  error : Option Text

namespace RunState

/-- The word for a state. -/
def name : RunState → Text
  | .passed => "passed"
  | .failed => "failed"
  | .skipped => "skipped"
  | .error => "error"

/-- The word for a state at the beginning of a report. -/
def label : RunState → Text
  | .passed => "PASS"
  | .failed => "FAIL"
  | .skipped => "SKIP"
  | .error => "ERROR"

end RunState

namespace Title

/-- A title as it is shown. -/
def shown : Title → Text
  | .text words => words
  | .bare => "True"

/-- A title as JSON. -/
def toJson : Title → Json
  | .text words => .str words
  | .bare => .bool true

end Title

namespace Report

/-- Whether a request did what it should or was left out. -/
def ok (report : Report) : Bool :=
  report.state = .passed || report.state = .skipped

/-! ## The text of a report -/

/-- The text of a body that is shown in a report. -/
def bodyShown : Json → Text
  | .str text => text
  | .null => "None"
  | .bool true => "True"
  | .bool false => "False"
  | .float value => value.write .plain "nan" "inf"
  | value => value.writeIndented 0

/-- Every line of a list with spaces in front. -/
def indented (spaces : Nat) (lines : List Text) : List Text :=
  lines.map fun line => List.replicate spaces ' ' ++ line

/-- The line of a header in a report; only a pair of two values is one. -/
def headerLine : Json → Except Breakdown Text
  | .list [name, value] => .ok (bodyShown name ++ ": " ++ bodyShown value)
  | _ => .error .brokenHeader

/-- The lines of the headers in a report. -/
def headerLines : Json → Except Breakdown (List Text)
  | .list pairs => pairs.mapM headerLine
  | .str [] => .ok []
  | _ => .error .brokenHeader

/-- The lines about the response in a report. -/
def responseLines (response : Json) : Except Breakdown (List Text) := do
  let headers := (response.field? "headers").filter Json.isGiven
  let headerPart ← match headers with
    | none => pure []
    | some headers => do
        let lines ← headerLines headers
        pure ("  HEADERS:".toList :: indented 4 lines)
  let bodyPart := match response.field? "body" with
    | none => []
    | some body => "  BODY:".toList :: indented 4 (Text.printedLines (bodyShown body))
  return headerPart ++ bodyPart

/-- The first line of a report. -/
def headLine (report : Report) : Text :=
  Text.flushLeft 5 report.state.label ++ " " ++ report.title.shown ++
    match report.outcome with
    | none => []
    | some outcome =>
        "  " ++ Text.ofInt outcome.status ++ " (" ++
          Text.ofInt (outcome.elapsed.truncate?.getD 0) ++ "ms)"

/-- The lines of a report without those about the response. -/
def briefLines (report : Report) : List Text :=
  report.headLine ::
    (report.error.map fun error => "  ERROR: ".toList ++ error).toList ++ indented 2 report.failures

/-- The response that a report shows: the redacted one, if there is one. -/
def response? (report : Report) : Option Json := do
  let outcome ← report.outcome
  (report.redacted.getD outcome.toJson).field? "response"

/-- The text of a report, with the response if that is asked for. -/
def format (report : Report) (verbose : Bool) : Except Breakdown Text := do
  let details ← match verbose, report.response? with
    | true, some response => responseLines response
    | _, _ => pure []
  return Text.join ['\n'] (report.briefLines ++ details)

end Report

end HttpScript
