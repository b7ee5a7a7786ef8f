import HttpScript.Document.LineForm
import HttpScript.Expectation
import HttpScript.Json.Reader
import HttpScript.Pattern.Reader

/-!
# Directives

Directives stand in comments before a request line.  `expect` and `ignore` gather every value they
are given, `name` may be given once, and of any other directive the last value counts.  Directives
without a rule of their own, `title` among them, keep their text.
-/

namespace HttpScript

/-- What a directive says. -/
inductive DirectiveValue
  /-- The directive has no value. -/
  | bare
  | text (value : Text)
  | flag (value : Bool)
  | status (code : Nat) (reason : Option Text)
  | expectations (all : List Expectation)
  | paths (all : List Text)

/-- Why a directive makes no sense. -/
inductive DirectiveProblem
  | badName (value : Option Text)
  | notBoolean (value : Text)
  | incompleteExpectation
  | badExpectedValue (path literal : Text)
  | notStatus (value : Option Text)
  | missingPath
  | missingPattern
  | badPattern (pattern : Text) (fault : Pattern.ReadFault)
  | secondName

/-- A value as it is shown in a message. -/
def DirectiveProblem.shown (value : Option Text) : Text :=
  value.getD "True"

/-- The wording of a problem. -/
def DirectiveProblem.message : DirectiveProblem → Text
  | .badName value => "invalid request name: " ++ shown value
  | .notBoolean value => "expected a boolean but found: " ++ value
  | .incompleteExpectation => "expect needs a query path and a JSON value"
  | .badExpectedValue path literal => "invalid JSON value for " ++ path ++ ": " ++ literal
  | .notStatus value => "expected a status code but found: " ++ shown value
  | .missingPath => "expected a query path"
  | .missingPattern => "expected a regular expression"
  | .badPattern pattern fault => fault.report pattern
  | .secondName => "only a single \"name\" request variable is allowed per request"

/-- Whether a problem is reported with its line.  A pattern with a number that is too large is not:
it ends the reading on the spot. -/
def DirectiveProblem.isReported : DirectiveProblem → Bool
  | .badPattern _ fault => !fault.problem.isOverflow
  | _ => true

namespace DirectiveValue

/-! ## Reading the value of a directive -/

/-- A request is named by a name as variables have it. -/
def readName (value : Option Text) : Except DirectiveProblem DirectiveValue :=
  match value with
  | some name => if Text.isName name then .ok (.text name) else .error (.badName value)
  | none => .error (.badName none)

/-- A flag without a value is set. -/
def readFlag : Option Text → Except DirectiveProblem DirectiveValue
  | none => .ok (.flag true)
  | some value =>
      let lower := Text.toLower value
      if ["true".toList, "yes".toList, "1".toList].contains lower then .ok (.flag true)
      else if ["false".toList, "no".toList, "0".toList].contains lower then .ok (.flag false)
      else .error (.notBoolean value)

/-- An expectation is a path and a JSON value after the first blank. -/
def readExpectation (value : Option Text) : Except DirectiveProblem DirectiveValue :=
  let (path, rest) := Text.splitWord (value.getD [])
  let literal := Text.trimStart rest
  if path.isEmpty || literal.isEmpty then .error .incompleteExpectation
  else match Json.read literal with
    | .ok expected => .ok (.expectations [⟨path, expected⟩])
    | .error _ => .error (.badExpectedValue path literal)

/-- A status is three digits, alone or with a reason after a blank. -/
def readStatus (value : Option Text) : Except DirectiveProblem DirectiveValue :=
  let code := (value.getD []).take 3
  let rest := (value.getD []).drop 3
  let reason := Text.trim rest
  if code.length = 3 && code.all Text.isDigit && rest.head?.all Text.isBlank then
    .ok (.status (Text.digitsValue code) (if reason.isEmpty then none else some reason))
  else .error (.notStatus value)

/-- A path is kept as it is written. -/
def readPath : Option Text → Except DirectiveProblem DirectiveValue
  | some path => .ok (.paths [path])
  | none => .error .missingPath

/-- A pattern is kept as it is written, provided it is one. -/
def readPattern : Option Text → Except DirectiveProblem DirectiveValue
  | none => .error .missingPattern
  | some pattern =>
      match Pattern.read pattern with
      | .ok _ => .ok (.text pattern)
      | .error fault => .error (.badPattern pattern fault)

/-- The rules for the values of directives, by name. -/
def readers : List (Text × (Option Text → Except DirectiveProblem DirectiveValue)) :=
  [("name", readName), ("only", readFlag), ("skip", readFlag), ("expect", readExpectation),
    ("status", readStatus), ("ignore", readPath), ("ignoreHeaders", readPattern),
    ("throws", fun value => if value.isNone then .ok .bare else readPattern value)]

/-- What a directive says, from its name and its text. -/
def read (name : Text) (value : Option Text) : Except DirectiveProblem DirectiveValue :=
  match readers.lookup name with
  | some reader => reader value
  | none => .ok ((value.map DirectiveValue.text).getD .bare)

/-- A value as JSON. -/
def toJson : DirectiveValue → Json
  | .bare => .bool true
  | .text value => .str value
  | .flag value => .bool value
  | .status code reason => .list [.int code, (reason.map Json.str).getD .null]
  | .expectations all => .list (all.map fun e => .list [.str e.path, e.expected])
  | .paths all => .list (all.map Json.str)

/-- Whether the values of a directive are gathered in a list. -/
def isGathered : DirectiveValue → Bool
  | .expectations _ => true
  | .paths _ => true
  | _ => false

/-- Values gathered so far with a further one. -/
def gather : DirectiveValue → DirectiveValue → DirectiveValue
  | .expectations all, .expectations more => .expectations (all ++ more)
  | .paths all, .paths more => .paths (all ++ more)
  | _, value => value

end DirectiveValue

/-- What a block says by one directive, and whether the directive was marked by `@@`. -/
structure DirectiveEntry where
  value : DirectiveValue
  isGlobal : Bool

/-- The directives of a block, in the order in which their names first occur. -/
abbrev Directives := Table DirectiveEntry

namespace Directives

/-- Adds a directive. -/
def add (directives : Directives) (name : Text) (value : Option Text) (isGlobal : Bool) :
    Except DirectiveProblem Directives := do
  let value ← DirectiveValue.read name value
  match Table.get? directives name with
  | none => return Table.set directives name ⟨value, isGlobal && !value.isGathered⟩
  | some old =>
      if value.isGathered then
        return Table.set directives name { old with value := old.value.gather value }
      else if name = "name".toList then throw .secondName
      else return Table.set directives name ⟨value, isGlobal⟩

/-- What a directive says. -/
def value? (directives : Directives) (name : Text) : Option DirectiveValue :=
  (Table.get? directives name).map DirectiveEntry.value

/-- Whether a flag is set. -/
def isSet (directives : Directives) (name : Text) : Bool :=
  match value? directives name with
  | some (.flag value) => value
  | _ => false

/-- The text of a directive, if it has one. -/
def text? (directives : Directives) (name : Text) : Option Text :=
  match value? directives name with
  | some (.text value) => some value
  | _ => none

/-- The expectations that were gathered. -/
def expectations (directives : Directives) : List Expectation :=
  match value? directives "expect" with
  | some (.expectations all) => all
  | _ => []

/-- The paths to be ignored. -/
def ignoredPaths (directives : Directives) : List Text :=
  match value? directives "ignore" with
  | some (.paths all) => all
  | _ => []

/-- The expectations that a status stands for. -/
def statusExpectations (directives : Directives) : List Expectation :=
  match value? directives "status" with
  | some (.status code reason) =>
      ⟨"$.response.status", .int code⟩ ::
        (reason.map fun text => ⟨"$.response.statusText", .str text⟩).toList
  | _ => []

/-- The directives as JSON. -/
def toJson (directives : Directives) : Json :=
  .object (directives.map fun (name, entry) =>
    (name, .object (("value".toList, entry.value.toJson) ::
      (if entry.value.isGathered then [] else [("global".toList, .bool entry.isGlobal)]))))

end Directives

end HttpScript
