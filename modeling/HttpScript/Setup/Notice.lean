import HttpScript.Files.Path
import HttpScript.Run.Session
import HttpScript.Text.Quoted

/-!
# Notices

While a command prepares and runs requests it takes notice of what it does.  A notice has a level
and a source; warnings are always shown, everything else only on demand.
-/

namespace HttpScript

/-- How much a notice matters. -/
inductive Level
  | debug
  | info
  | warning
deriving DecidableEq, Repr

/-- The word for a level. -/
def Level.name : Level → Text
  | .debug => "DEBUG"
  | .info => "INFO"
  | .warning => "WARNING"

/-- What a command takes notice of. -/
inductive Notice
  | configLoaded (path : Path)
  | environmentsLoaded (path : Path)
  /-- No environment of that name is known in a directory. -/
  | environmentUnknown (name : Json) (directory : Path)
  | variablesMissing (path : Path)
  /-- A statement of a file of environment variables cannot be read. -/
  | statementUnreadable (line : Nat)
  | requestRead (method url : Text) (line : Nat)
  | requestRun (entry : LogEntry)

namespace Notice

/-- How much a notice matters. -/
def level : Notice → Level
  | .environmentUnknown .. | .variablesMissing _ | .statementUnreadable _ => .warning
  | .requestRun (.skipped _) => .info
  | _ => .debug

/-- Which part of the program takes the notice. -/
def source : Notice → Text
  | .statementUnreadable _ => "dotenv.main"
  | .requestRead .. => "reqfile.parser"
  | .requestRun (.resolved ..) => "reqfile.resolver"
  | .requestRun _ => "reqfile.executor"
  | _ => "reqfile.core"

/-- The name of an environment as it is shown: a text in quotes, any other value in words. -/
def shownName : Json → Text
  | .str name => Text.quoted name
  | name => Report.bodyShown name

/-- The wording of a notice. -/
def message : Notice → Text
  | .configLoaded path => "loaded config " ++ path.toText
  | .environmentsLoaded path => "loaded environment file " ++ path.toText
  | .environmentUnknown name directory =>
      "environment " ++ shownName name ++ " not found in " ++ directory.toText
  | .variablesMissing path => "env file not found: " ++ path.toText
  | .statementUnreadable line =>
      "python-dotenv could not parse statement starting at line " ++ Text.ofNat line
  | .requestRead method url line =>
      "parsed " ++ method ++ " " ++ url ++ " (line " ++ Text.ofNat line ++ ")"
  | .requestRun (.resolved method url) => "resolved " ++ method ++ " " ++ url
  | .requestRun (.registered name) => "registered outcome " ++ Text.quoted name
  | .requestRun (.skipped title) => "skipped " ++ title.shown

/-- The line that shows a notice, if it is shown: a bare warning, or anything with its level and its
source when everything is shown. -/
def line? (everything : Bool) (notice : Notice) : Option Text :=
  if everything then
    some (notice.level.name ++ " " ++ notice.source ++ ": " ++ notice.message)
  else if notice.level = .warning then some notice.message
  else none

end Notice

end HttpScript
