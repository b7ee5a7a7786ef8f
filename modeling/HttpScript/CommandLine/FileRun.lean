import HttpScript.CommandLine.Options
import HttpScript.Setup.Config
import HttpScript.Setup.Environment

/-!
# The run of one file

A script is read and then either listed or run, in a session of its own: outcomes of one file are
not known in another, while the transport and the sources go on.  What came of the file is kept as
a result; its text is made from the result afterwards.
-/

namespace HttpScript

/-- What is decided before the first file. -/
structure Plan where
  options : Options
  /-- The name of the environment, as it was found. -/
  environment : Json
  /-- The time limit of a request, in seconds. -/
  timeout : Int

/-- What came of one file. -/
inductive FileResult
  | unreadable (fault : AccessFault)
  | malformed (fault : DocumentFault)
  | badEnvironment (problem : SetupProblem)
  | listed (records : List Record)
  | ran (reports : List Report)

/-- One file, the notices taken of it, and what came of it unless it ended the command. -/
structure FileRun where
  file : Text
  notices : List Notice
  result : Except Crash FileResult

namespace FileResult

/-- Whether a file was dealt with as it should be. -/
def ok : FileResult → Bool
  | .listed _ => true
  | .ran reports => reports.all Report.ok
  | _ => false

/-- The error that is shown of a file. -/
def error? (file : Text) : FileResult → Option Text
  | .unreadable fault => some ("ERROR: cannot read " ++ file ++ ": " ++ fault.message)
  | .malformed fault => some ("ERROR: " ++ file ++ ": " ++ fault.message)
  | .badEnvironment problem => some ("ERROR: " ++ problem.message)
  | .listed _ | .ran _ => none

/-- The redacted outcome of a request with its title and its state. -/
def rawOutcome? (report : Report) : Option Json :=
  report.redacted.map fun redacted =>
    .object [("title", report.title.toJson), ("state", .str report.state.name),
      ("outcome", redacted)]

/-- The redacted outcomes of the requests of a file. -/
def rawOutcomes : FileResult → List Json
  | .ran reports => reports.filterMap rawOutcome?
  | _ => []

/-! ## Text -/

/-- A text on a line of its own. -/
def onLine (text : Text) : Text :=
  text ++ ['\n']

/-- The line of a request in a list. -/
def requestLine (request : Request) : Text :=
  let name := match request.name? with
    | some name => "  [" ++ name ++ "]"
    | none => []
  "  " ++ Text.flushRight 4 (Text.ofNat request.line) ++ "  " ++ Text.flushLeft 6 request.method ++
    " " ++ request.url ++ name

/-- The line of the global variables in a list, if there are any. -/
def globalsLine? (records : List Record) : Option Text :=
  match (collectGlobals records).sortByName.names with
  | [] => none
  | names => some ("  globals: " ++ Text.join ", " names)

/-- The requests of a file as a list. -/
def listing (file : Text) (records : List Record) : Text :=
  let requests := requestsOf records
  let head := file ++ ": " ++ Text.ofNat requests.length ++ " request(s)"
  (head :: requests.map requestLine ++ (globalsLine? records).toList).flatMap onLine

/-- How many reports are in a state. -/
def countIn (state : RunState) (reports : List Report) : Nat :=
  reports.countP fun report => report.state = state

/-- The counts below the reports of a file: every report that neither passed nor was skipped has
failed. -/
def summary (reports : List Report) : Text :=
  let passed := countIn .passed reports
  let skipped := countIn .skipped reports
  let failed := reports.length - passed - skipped
  Text.ofNat passed ++ " passed, " ++ Text.ofNat failed ++ " failed, " ++ Text.ofNat skipped ++
    " skipped\n"

/-- The reports of a file with the counts below them, up to a report that cannot be written. -/
def reportsText (verbose : Bool) (all : List Report) : List Report → Text × Option Breakdown
  | [] => (onLine (summary all), none)
  | report :: rest =>
      match report.format verbose with
      | .error breakdown => ([], some breakdown)
      | .ok text =>
          let (more, breakdown) := reportsText verbose all rest
          (onLine text ++ more, breakdown)

/-- What is printed of a file, and what made that end early. -/
def printed (options : Options) (file : Text) : FileResult → Text × Option Breakdown
  | .listed records => (listing file records, none)
  | .ran reports =>
      if options.raw then ([], none)
      else
        let (text, breakdown) := reportsText options.verbose reports reports
        (onLine file ++ text, breakdown)
  | _ => ([], none)

end FileResult

namespace FileRun

/-- What is printed of a file. -/
def printed (options : Options) (run : FileRun) : Text :=
  match run.result with
  | .ok result => (result.printed options run.file).1
  | .error _ => []

/-- What ends the command with this file. -/
def crash? (options : Options) (run : FileRun) : Option Crash :=
  match run.result with
  | .ok result => (result.printed options run.file).2.map Crash.breakdown
  | .error crash => some crash

/-- The error that is shown of a file. -/
def error? (run : FileRun) : Option Text :=
  match run.result with
  | .ok result => result.error? run.file
  | .error _ => none

/-- Whether a file was dealt with as it should be. -/
def ok (run : FileRun) : Bool :=
  match run.result with
  | .ok result => result.ok
  | .error _ => false

/-- The redacted outcomes of the requests of a file. -/
def rawOutcomes (run : FileRun) : List Json :=
  match run.result with
  | .ok result => result.rawOutcomes
  | .error _ => []

/-! ## Running -/

/-- The notice that a request was read. -/
def readNotice (request : Request) : Notice :=
  .requestRead request.method request.url request.line

/-- Runs the requests of a file in their environment, after some notices were taken. -/
def runRecords (plan : Plan) (disk : Disk) (file : Text) (records : List Record)
    (notices : List Notice) (session : Session) : FileRun × Session :=
  let directory := ((Path.ofText file).resolve disk.workplace).parent
  let (environment, notices) := (Environment.load disk directory plan.environment).run.run notices
  match environment with
  | .error (.problem problem) => (⟨file, notices, .ok (.badEnvironment problem)⟩, session)
  | .error (.crash crash) => (⟨file, notices, .error crash⟩, session)
  | .ok env =>
      let (reports, session) :=
        { session with outcomes := [], log := [] }.run ⟨env, plan.timeout⟩ records
      let notices := notices ++ session.log.map Notice.requestRun
      match reports with
      | .ok reports => (⟨file, notices, .ok (.ran reports)⟩, session)
      | .error breakdown => (⟨file, notices, .error (.breakdown breakdown)⟩, session)

/-- Reads a file and lists or runs it. -/
def ofFile (plan : Plan) (disk : Disk) (file : Text) (session : Session) : FileRun × Session :=
  match (disk.find file).read with
  | .error fault => (⟨file, [], .ok (.unreadable fault)⟩, session)
  | .ok content =>
      let (records, fault) := Document.readUpToFault content
      let notices := (requestsOf records).map readNotice
      match fault with
      | some fault =>
          let result := if fault.isReported then .ok (.malformed fault)
            else .error .patternOverflow
          (⟨file, notices, result⟩, session)
      | none =>
          if plan.options.list then (⟨file, notices, .ok (.listed records)⟩, session)
          else runRecords plan disk file records notices session

/-- Deals with files one after the other, up to one that ends the command. -/
def ofFiles (plan : Plan) (disk : Disk) : List Text → Session → List FileRun × Session
  | [], session => ([], session)
  | file :: rest, session =>
      let (run, session) := ofFile plan disk file session
      if (run.crash? plan.options).isSome then ([run], session)
      else
        let (runs, session) := ofFiles plan disk rest session
        (run :: runs, session)

end FileRun

end HttpScript
