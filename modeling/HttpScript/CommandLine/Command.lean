import HttpScript.CommandLine.FileRun

/-!
# The command

The command reads its arguments, then the settings and the environment variables, and then deals
with its files in order, even after one that failed.  What it prints, what it reports as errors and
how it ends is one value; nothing of it depends on anything but the arguments, the disk, the process
environment, the sources and the transport.
-/

namespace HttpScript

/-- How the command ends. -/
inductive Ending
  | usage (fault : UsageFault)
  | badSetup (problem : SetupProblem)
  | crashed (crash : Crash)
  /-- All files were dealt with; `ok` if each of them as it should be. -/
  | finished (ok : Bool)

/-- The exit status of an ending. -/
def Ending.status : Ending → Nat
  | .usage _ => 2
  | .badSetup _ | .crashed _ => 1
  | .finished ok => if ok then 0 else 1

/-- What the command leaves behind. -/
structure CommandResult where
  ending : Ending
  printed : Text
  /-- The lines of errors and of notices that are shown. -/
  errors : List Text
  /-- The calls that reached the transport. -/
  calls : List Call

namespace Command

/-- The settings of the command. -/
def loadConfig (disk : Disk) (options : Options) : Setup Config :=
  match Config.findPath disk options.configFile with
  | some path => Config.load disk path
  | none => pure Config.absent

/-- The plan of the command, and the process environment that its requests see. -/
def prepare (options : Options) (disk : Disk) (process : Table Text) :
    Setup (Plan × Table Text) := do
  let config ← loadConfig disk options
  let environ ← config.environ disk options.variablesFile process
  let environment ← config.environmentName options.environment environ
  let timeout ← config.timeout options.timeout
  return ({ options, environment, timeout }, environ)

/-- The lines that show notices. -/
def noticeLines (options : Options) (notices : List Notice) : List Text :=
  notices.filterMap (Notice.line? options.debug)

/-- The lines of notices and of the error of a file. -/
def errorLines (options : Options) (run : FileRun) : List Text :=
  noticeLines options run.notices ++ run.error?.toList

/-- How the command ends after its files. -/
def endingOf (options : Options) (runs : List FileRun) : Ending :=
  match runs.findSome? (FileRun.crash? options) with
  | some crash => .crashed crash
  | none => .finished (runs.all FileRun.ok)

/-- What is printed after the files: the redacted outcomes of all of them, if that is asked for. -/
def rawText (options : Options) (runs : List FileRun) : Ending → Text
  | .finished _ =>
      if options.raw then
        FileResult.onLine ((Json.list (runs.flatMap FileRun.rawOutcomes)).writeIndented 0)
      else []
  | _ => []

/-- Deals with the files of a plan, after some notices were taken. -/
def runFiles (plan : Plan) (disk : Disk) (notices : List Notice) (sources : Sources)
    (transport : Transport) : CommandResult :=
  let options := plan.options
  let (runs, session) :=
    FileRun.ofFiles plan disk options.files
      { outcomes := [], sources, transport, calls := [], log := [] }
  let ending := endingOf options runs
  { ending
    printed := runs.flatMap (FileRun.printed options) ++ rawText options runs ending
    errors := noticeLines options notices ++ runs.flatMap (errorLines options)
    calls := session.calls }

/-- Runs the command with its options. -/
def runOptions (options : Options) (disk : Disk) (process : Table Text) (sources : Sources)
    (transport : Transport) : CommandResult :=
  let (plan, notices) := (prepare options disk process).run.run []
  let shown := noticeLines options notices
  match plan with
  | .error (.problem problem) =>
      { ending := .badSetup problem, printed := []
        errors := shown ++ ["ERROR: " ++ problem.message], calls := [] }
  | .error (.crash crash) =>
      { ending := .crashed crash, printed := [], errors := shown, calls := [] }
  | .ok (plan, environ) => runFiles plan disk notices { sources with environ } transport

/-- The options that arguments give, if no directory is among the files. -/
def options (disk : Disk) (arguments : List Text) : Except UsageFault Options := do
  let options ← Options.read arguments
  match options.files.find? fun file => disk.find file = .directory with
  | some file => throw (.directory file)
  | none => return options

/-! ## What the command reads -/

/-- The files of environments next to a script. -/
def environmentFiles (workplace : List Text) (file : Text) : List Text :=
  let directory := ((Path.ofText file).resolve workplace).parent
  [Environment.fileName, Environment.userFileName].map fun name =>
    (directory.join (Path.ofText name)).toText

/-- The paths of all that the command may read besides a file of environment variables. -/
def pathsRead (workplace : List Text) (options : Options) : List Text :=
  options.configFile.toList ++ Config.fileNames ++ options.files ++
    options.files.flatMap (environmentFiles workplace)

/-- The path of the file of environment variables that the command reads, if there is one. -/
def variablesPath? (disk : Disk) (options : Options) : Option Text :=
  let path : Setup (Option Path) := do
    let config ← loadConfig disk options
    return (← config.variablesFile options.variablesFile).map config.variablesPath
  ((path.run.run []).1.toOption.bind id).map Path.toText

/-! ## Running -/

/-- Runs the command. -/
def run (arguments : List Text) (disk : Disk) (process : Table Text) (sources : Sources)
    (transport : Transport) : CommandResult :=
  match options disk arguments with
  | .error fault =>
      { ending := .usage fault, printed := [], errors := ["Error: " ++ fault.message], calls := [] }
  | .ok options => runOptions options disk process sources transport

end Command

end HttpScript
