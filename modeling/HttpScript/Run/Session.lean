import HttpScript.Run.Report

/-!
# Sessions

A session runs the requests of documents one after the other, in order.  The outcomes of named
requests are kept in the session, so that later requests, of later documents too, can refer to
them.  A problem ends in the report of its request; a breakdown ends the run of the document.
-/

namespace HttpScript

/-- What a session writes to its log. -/
inductive LogEntry
  | resolved (method url : Text)
  | registered (name : Text)
  | skipped (title : Title)

/-- What a session is given and keeps unchanged. -/
structure Settings where
  env : Table Text
  /-- The time limit of a request, in seconds. -/
  timeout : Int

/-- What a session carries from one request to the next. -/
structure Session where
  /-- The outcomes of named requests, in the order in which the names were first registered. -/
  outcomes : Table Outcome
  sources : Sources
  transport : Transport
  /-- The calls that reached the transport. -/
  calls : List Call
  log : List LogEntry

namespace Session

/-- The scope of a request of a document. -/
def scope (session : Session) (settings : Settings) (globals : Table Variable)
    (request : Request) : Scope :=
  { env := settings.env, globals, locals := request.declared
    outcomes := session.outcomes.map fun (name, outcome) => (name, outcome.toJson) }

/-- The title of a request by its directive, or else by its method and an address. -/
def title (request : Request) (url : Text) : Title :=
  match request.directives.value? "title" with
  | some (.text text) => .text text
  | some .bare => .bare
  | _ => .text (request.method ++ " " ++ url)

/-- Writes to the log. -/
def note (entry : LogEntry) (session : Session) : Session :=
  { session with log := session.log ++ [entry] }

/-- Expands the placeholders of a request. -/
def resolve (settings : Settings) (globals : Table Variable) (request : Request)
    (session : Session) : Except Fault ResolvedRequest × Session :=
  let (result, sources) :=
    (request.resolve (session.scope settings globals request)).run session.sources
  let session := { session with sources }
  match result with
  | .ok sent => (.ok sent, session.note (.resolved sent.method sent.url))
  | .error fault => (.error fault, session)

/-- Registers an outcome under the name of its request, if it has one. -/
def register (request : Request) (outcome : Outcome) (session : Session) : Session :=
  match request.name? with
  | none => session
  | some name =>
      { session with outcomes := Table.set session.outcomes name outcome }.note (.registered name)

/-- Sends a request and registers its outcome; an error of the transport is a problem. -/
def execute (settings : Settings) (request : Request) (sent : ResolvedRequest)
    (body : Option Json) (session : Session) : Except Fault Outcome × Session :=
  let call : Call := { sent with timeout := settings.timeout }
  let (reply, transport) := session.transport.send call
  let session := { session with transport, calls := session.calls ++ [call] }
  match reply.error.filter fun text => !text.isEmpty with
  | some error => (.error (.problem (.transport error)), session)
  | none =>
      let outcome := Outcome.ofReply sent body reply
      (.ok outcome, session.register request outcome)

/-! ## The report of a request -/

/-- The messages of the expectations that fail, up to the first one that cannot be checked. -/
def checkAll (data : Json) : List Expectation → List Text × Option Fault
  | [] => ([], none)
  | expectation :: rest =>
      match expectation.check data with
      | .error fault => ([], some (Fault.ofQuery expectation.path fault))
      | .ok verdict =>
          let (failures, fault) := checkAll data rest
          ((if verdict.passed then [] else [verdict.message]) ++ failures, fault)

/-- A report that a fault was entered into: a problem becomes its error, a breakdown has no
report. -/
def withFault (report : Report) : Fault → Except Breakdown Report
  | .problem problem => .ok { report with error := some problem.message }
  | .breakdown breakdown => .error breakdown

/-- The report of a request that was answered, with its redacted outcome and the expectations that
fail. -/
def judge (request : Request) (report : Report) (outcome : Outcome) :
    Except Breakdown Report :=
  let report := { report with outcome := some outcome }
  match outcome.redacted request.directives with
  | .error fault => withFault report fault
  | .ok redacted =>
      let (failures, fault) := checkAll outcome.toJson request.expectations
      let report := { report with redacted := some redacted, failures }
      match fault with
      | none => .ok report
      | some fault => withFault report fault

/-- What a report says went wrong: its error, or else its failures. -/
def complaint (report : Report) : Text :=
  match report.error with
  | some error => error
  | none => Text.join ['\n'] report.failures

/-- Settles the state of a request that should succeed. -/
def settlePlain (report : Report) : Report :=
  let state : RunState :=
    if report.error.isSome then .error
    else if report.failures.isEmpty then .passed
    else .failed
  { report with state }

/-- Settles the state of a request that should fail, by what a pattern describes if there is one. -/
def settleThrowing (pattern : Option Text) (report : Report) : Report :=
  let complaint := complaint report
  if complaint.isEmpty then
    { report with
      state := .failed
      failures := report.failures ++ ["expected the request to fail but it succeeded".toList] }
  else
    let passed : Report := { report with state := .passed, failures := [], error := none }
    match pattern with
    | none => passed
    | some text =>
        if (Outcome.pattern? text).any fun pattern => pattern.search complaint then passed
        else
          { report with
            state := .failed
            failures := ["failure did not match /" ++ text ++ "/: " ++ complaint]
            error := none }

/-- Settles the state of a request, by what its directive says about failing. -/
def settle (request : Request) (report : Report) : Report :=
  match request.directives.value? "throws" with
  | some .bare => settleThrowing none report
  | some (.text pattern) => settleThrowing (some pattern) report
  | _ => settlePlain report

/-- A report about nothing yet. -/
def blank (title : Title) (state : RunState) : Report :=
  { title, state, outcome := none, redacted := none, failures := [], error := none }

/-- Runs a request up to its report, before its state is settled. -/
def attempt (settings : Settings) (globals : Table Variable) (request : Request)
    (session : Session) : Except Breakdown Report × Session :=
  let report := blank (title request request.url) .passed
  let (resolved, session) := session.resolve settings globals request
  match resolved with
  | .error fault => (withFault report fault, session)
  | .ok sent =>
      let report := { report with title := title request (if sent.url.isEmpty then request.url
        else sent.url) }
      match Outcome.decodeBody request sent.body with
      | .error fault => (withFault report fault, session)
      | .ok body =>
          let (outcome, session) := session.execute settings request sent body
          match outcome with
          | .error fault => (withFault report fault, session)
          | .ok outcome => (judge request report outcome, session)

/-- Runs a request. -/
def runRequest (settings : Settings) (globals : Table Variable) (request : Request)
    (session : Session) : Except Breakdown Report × Session :=
  let (report, session) := session.attempt settings globals request
  (report.map (settle request), session)

/-! ## The run of a document -/

/-- Whether a request is left out: it says so itself, or others are singled out. -/
def isSkipped (focused : Bool) (request : Request) : Bool :=
  request.directives.isSet "skip" || (focused && !request.directives.isSet "only")

/-- The report of a request that is left out. -/
def skippedReport (request : Request) : Report :=
  blank (title request request.url) .skipped

/-- Runs requests in order, up to a breakdown. -/
def runAll (settings : Settings) (globals : Table Variable) (focused : Bool) :
    List Request → Session → Except Breakdown (List Report) × Session
  | [], session => (.ok [], session)
  | request :: rest, session =>
      let (report, session) :=
        if isSkipped focused request then
          (.ok (skippedReport request), session.note (.skipped (title request request.url)))
        else session.runRequest settings globals request
      match report with
      | .error breakdown => (.error breakdown, session)
      | .ok report =>
          let (reports, session) := runAll settings globals focused rest session
          (reports.map (report :: ·), session)

/-- Runs the requests of a document. -/
def run (settings : Settings) (records : List Record) (session : Session) :
    Except Breakdown (List Report) × Session :=
  let requests := requestsOf records
  let focused := requests.any fun request => request.directives.isSet "only"
  runAll settings (collectGlobals records) focused requests session

end Session

end HttpScript
