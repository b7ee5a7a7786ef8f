import HttpScript.Query.Selection
import HttpScript.Json.Equality
import HttpScript.Json.Writer

/-!
# Expectations

An expectation is a query and the value that it should give.  One selected value is compared as it
is, several as a list; when nothing is selected the expectation fails, even for `null`.
-/

namespace HttpScript

/-- A query, as it was written, and the value expected of it. -/
structure Expectation where
  path : Text
  expected : Json

/-- Whether an expectation was met, with the message about it. -/
structure Verdict where
  passed : Bool
  message : Text

namespace Expectation

/-- A value as it is shown in a message: at most eighty characters of it. -/
def summary (value : Json) : Text :=
  let text := value.write
  if text.length > 80 then text.take 77 ++ "..." else text

/-- Compares the selected values with the expected one. -/
def judge (expectation : Expectation) (found : List Json) : Verdict :=
  let label := expectation.path ++ " == " ++ expectation.expected.write
  let passed := !found.isEmpty && (Query.single found).eqv expectation.expected
  if passed then ⟨true, "EXPECT PASSED: " ++ label⟩
  else
    let shown := if found.isEmpty then "(absent)".toList else summary (Query.single found)
    ⟨false, "EXPECT FAILED: " ++ label ++ " (actual: " ++ shown ++ ")"⟩

/-- Checks an expectation against a document. -/
def check (expectation : Expectation) (document : Json) : Except Query.ReadFault Verdict := do
  return expectation.judge (Query.values (← Query.read expectation.path) document)

end Expectation

end HttpScript
