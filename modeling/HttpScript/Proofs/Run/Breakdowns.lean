import HttpScript.Proofs.Placeholder.Faults
import HttpScript.Proofs.Redaction
import HttpScript.Proofs.Run.History

/-!
# What ends a run

A problem of one request is the error of its report, and the requests behind it are run.  A
breakdown has no report and ends the run.  Its cause lies in the request: a call that moves a date
out of the calendar, a path in which a bound is a minus sign without digits, or places to be ignored
that are not all to be found when the others are replaced.
-/

namespace HttpScript

/-! ## Where faults come from -/

/-- The texts of a request that are expanded. -/
def Request.texts (request : Request) : List Text :=
  request.url :: request.headers.map Prod.snd ++ request.body.toList

theorem exists_of_expandHeaders_eq_error {scope : Scope} {headers : List (Text × Text)}
    {sources : Sources} {fault : Fault}
    (hfault : ((expandHeaders scope headers).outcome sources).1 = .error fault) :
    ∃ text ∈ headers.map Prod.snd, ∃ sources,
      ((expand scope text).outcome sources).1 = .error fault := by
  induction headers generalizing sources with
  | nil => exact nomatch hfault
  | cons header rest ih =>
      rw [expandHeaders] at hfault
      rcases Expanding.outcome_bind_eq_error hfault with hvalue | ⟨value, between, -, hrest⟩
      · exact ⟨header.2, List.mem_cons_self, sources, hvalue⟩
      · rcases Expanding.outcome_bind_eq_error hrest with hrest | ⟨values, after, -, hvalues⟩
        · obtain ⟨text, htext, hfailing⟩ := ih hrest
          exact ⟨text, List.mem_cons_of_mem _ htext, hfailing⟩
        · exact nomatch hvalues

/-- A request that is not resolved has a text that is not expanded. -/
theorem Request.exists_of_resolve_eq_error {request : Request} {scope : Scope} {sources : Sources}
    {fault : Fault} (hfault : ((request.resolve scope).outcome sources).1 = .error fault) :
    ∃ text ∈ request.texts, ∃ sources, ((expand scope text).outcome sources).1 = .error fault := by
  unfold Request.resolve at hfault
  rcases Expanding.outcome_bind_eq_error hfault with hurl | ⟨url, between, -, hfault⟩
  · exact ⟨request.url, List.mem_cons_self, sources, hurl⟩
  rcases Expanding.outcome_bind_eq_error hfault with hheaders | ⟨headers, after, -, hfault⟩
  · obtain ⟨text, htext, hfailing⟩ := exists_of_expandHeaders_eq_error hheaders
    exact ⟨text, List.mem_append_left _ (List.mem_cons_of_mem _ htext), hfailing⟩
  rcases Expanding.outcome_bind_eq_error hfault with hbody | ⟨body, last, -, hfault⟩
  · cases hwritten : request.body with
    | none =>
        rw [hwritten] at hbody
        exact nomatch hbody
    | some text =>
        rw [hwritten] at hbody
        refine ⟨text, List.mem_append_right _ ?_, after, ?_⟩
        · rw [hwritten]
          exact List.mem_singleton_self text
        · rcases Expanding.outcome_bind_eq_error hbody with htext | ⟨value, last, -, hvalue⟩
          · exact htext
          · exact nomatch hvalue
  · exact nomatch hfault

theorem exists_of_checkAll_eq_some {data : Json} {expectations : List Expectation} {fault : Fault}
    (hfault : (Session.checkAll data expectations).2 = some fault) :
    ∃ expectation ∈ expectations, ∃ reason, Query.read expectation.path = .error reason ∧
      fault = Fault.ofQuery expectation.path reason := by
  induction expectations with
  | nil => exact nomatch hfault
  | cons expectation rest ih =>
      rw [Session.checkAll] at hfault
      cases hread : Query.read expectation.path with
      | error reason =>
          have hcheck : expectation.check data = .error reason := by
            rw [Expectation.check, hread]
            rfl
          rw [hcheck] at hfault
          exact ⟨expectation, List.mem_cons_self, reason, hread, (Option.some.inj hfault).symm⟩
      | ok segments =>
          have hcheck : expectation.check data =
              .ok (expectation.judge (Query.values segments data)) := by
            rw [Expectation.check, hread]
            rfl
          rw [hcheck] at hfault
          obtain ⟨other, hother, hreason⟩ := ih hfault
          exact ⟨other, List.mem_cons_of_mem _ hother, hreason⟩

/-- A body that is not decoded is a problem. -/
theorem exists_of_decodeBody_eq_error {request : Request} {body : Option Text} {fault : Fault}
    (hdecoded : Outcome.decodeBody request body = .error fault) :
    ∃ document, fault = .problem (.document document) := by
  unfold Outcome.decodeBody at hdecoded
  split at hdecoded
  · exact nomatch hdecoded
  · exact nomatch hdecoded
  · split at hdecoded
    · split at hdecoded
      · exact nomatch hdecoded
      · exact nomatch hdecoded
      · exact ⟨_, (Except.error.inj hdecoded).symm⟩
    · exact nomatch hdecoded

/-! ## The first fault of a turn -/

/-- What goes wrong when an outcome is redacted and checked. -/
def Outcome.fault? (outcome : Outcome) (request : Request) : Option Fault :=
  match outcome.redacted request.directives with
  | .error fault => some fault
  | .ok _ => (Session.checkAll outcome.toJson request.expectations).2

theorem Session.judge_of_fault {request : Request} {outcome : Outcome} {fault : Fault}
    (hfault : outcome.fault? request = some fault) (report : Report) :
    ∃ draft, judge request report outcome = withFault draft fault := by
  unfold Outcome.fault? at hfault
  unfold judge
  cases hredacted : outcome.redacted request.directives with
  | error other =>
      rw [hredacted] at hfault
      obtain rfl := Option.some.inj hfault
      exact ⟨_, rfl⟩
  | ok redacted =>
      rw [hredacted] at hfault
      dsimp only at hfault ⊢
      rw [hfault]
      exact ⟨_, rfl⟩

theorem Session.exists_judge {request : Request} {outcome : Outcome}
    (hfault : outcome.fault? request = none) (report : Report) :
    ∃ draft, judge request report outcome = .ok draft := by
  unfold Outcome.fault? at hfault
  unfold judge
  cases hredacted : outcome.redacted request.directives with
  | error other =>
      rw [hredacted] at hfault
      exact nomatch hfault
  | ok redacted =>
      rw [hredacted] at hfault
      dsimp only at hfault ⊢
      rw [hfault]
      exact ⟨_, rfl⟩

namespace Turn

variable (settings : Settings) (turn : Turn)

/-- The first thing that goes wrong in a turn. -/
def fault? : Option Fault :=
  match turn.stage settings with
  | .skipped => none
  | .unresolved fault => some fault
  | .undecodable _ fault => some fault
  | .unanswered _ message => some (.problem (.transport message))
  | .answered _ outcome => outcome.fault? turn.request

variable {settings turn}

/-- A fault is entered into the report, which is then settled. -/
theorem report_of_fault {fault : Fault} (hfault : turn.fault? settings = some fault) :
    ∃ draft, turn.report settings =
      (Session.withFault draft fault).map (Session.settle turn.request) := by
  unfold fault? at hfault
  rw [report, run_eq]
  cases hstage : turn.stage settings with
  | skipped =>
      rw [hstage] at hfault
      exact nomatch hfault
  | unresolved other =>
      rw [hstage] at hfault
      rw [Option.some.inj hfault]
      exact ⟨_, rfl⟩
  | undecodable sent other =>
      rw [hstage] at hfault
      rw [Option.some.inj hfault]
      exact ⟨_, rfl⟩
  | unanswered sent message =>
      rw [hstage] at hfault
      rw [← Option.some.inj hfault]
      exact ⟨_, rfl⟩
  | answered sent outcome =>
      rw [hstage] at hfault
      obtain ⟨draft, hjudge⟩ := Session.judge_of_fault hfault (turn.draft (turn.address sent))
      exact ⟨draft, congrArg (Except.map (Session.settle turn.request)) hjudge⟩

theorem exists_report (hfault : turn.fault? settings = none) :
    ∃ report, turn.report settings = .ok report := by
  unfold fault? at hfault
  rw [report, run_eq]
  cases hstage : turn.stage settings with
  | skipped => exact ⟨_, rfl⟩
  | answered sent outcome =>
      rw [hstage] at hfault
      obtain ⟨draft, hjudge⟩ := Session.exists_judge hfault (turn.draft (turn.address sent))
      exact ⟨Session.settle turn.request draft,
        congrArg (Except.map (Session.settle turn.request)) hjudge⟩
  | _ =>
      rw [hstage] at hfault
      exact nomatch hfault

theorem report_of_problem {problem : Problem}
    (hfault : turn.fault? settings = some (.problem problem)) :
    ∃ draft : Report, draft.error = some problem.message ∧
      turn.report settings = .ok (Session.settle turn.request draft) := by
  obtain ⟨draft, hreport⟩ := report_of_fault hfault
  exact ⟨{ draft with error := some problem.message }, rfl, hreport⟩

/-- A turn ends the run just if the first thing that goes wrong in it is a breakdown. -/
theorem report_eq_error_iff {breakdown : Breakdown} :
    turn.report settings = .error breakdown ↔
      turn.fault? settings = some (.breakdown breakdown) := by
  constructor
  · intro hreport
    cases hfault : turn.fault? settings with
    | none =>
        obtain ⟨report, hother⟩ := exists_report hfault
        exact nomatch hreport.symm.trans hother
    | some fault =>
        obtain ⟨draft, hother⟩ := report_of_fault hfault
        cases fault with
        | problem => exact nomatch hreport.symm.trans hother
        | breakdown other =>
            rw [Except.error.inj (hreport.symm.trans hother)]
  · intro hfault
    obtain ⟨draft, hreport⟩ := report_of_fault hfault
    exact hreport

/-! ## The causes of breakdowns -/

variable (settings turn)

/-- What can end a run in a turn. -/
inductive Hazard : Breakdown → Prop
  /-- A call moves a date out of the calendar. -/
  | shift {text inner identifier : Text} {path : List Text} {inGlobal : Bool} {fault : ShiftFault}
      {sources after : Sources} (htext : text ∈ turn.request.texts)
      (hvisited : Visited (turn.scope settings) text path inGlobal inner)
      (hidentifier : identifier ∈ placeholders inner) (hcall : isCall identifier = true)
      (hfault : (Function.evaluate identifier).outcome sources =
        (.error (.breakdown (.shift fault)), after)) : Hazard (.shift fault)
  /-- A placeholder leads into an outcome by a path with a bound without digits. -/
  | reference {text inner identifier query : Text} {path : List Text} {inGlobal : Bool}
      {outcome : Json} (htext : text ∈ turn.request.texts)
      (hvisited : Visited (turn.scope settings) text path inGlobal inner)
      (hidentifier : identifier ∈ placeholders inner)
      (houtcome : (turn.scope settings).outcomePath? identifier = some (outcome, query))
      (hread : Query.read query = .error .loneSign) : Hazard .loneSign
  /-- A path that is ignored has a bound without digits. -/
  | ignored {path : Text} (hpath : path ∈ turn.request.directives.ignoredPaths)
      (hread : Query.read path = .error .loneSign) : Hazard .loneSign
  /-- Something that is ignored is not in its place any more, or the headers are not. -/
  | redaction {fault : Redaction.Fault} (hpaths : turn.request.directives.ignoredPaths ≠ []) :
      Hazard (.redaction fault)
  /-- A path at which something is expected has a bound without digits. -/
  | expectation {expectation : Expectation} (hmem : expectation ∈ turn.request.expectations)
      (hread : Query.read expectation.path = .error .loneSign) : Hazard .loneSign

variable {settings turn}

theorem hazard_of_resolved {breakdown : Breakdown}
    (hresolved : turn.resolved settings = .error (.breakdown breakdown)) :
    turn.Hazard settings breakdown := by
  obtain ⟨text, htext, sources, hfault⟩ := Request.exists_of_resolve_eq_error hresolved
  obtain ⟨path, inGlobal, inner, identifier, hfails⟩ := exists_failsAt hfault
  rcases hfails.fault_of_follow with ⟨-, hcycle⟩ | hlead
  · exact nomatch hcycle
  · rcases hlead.of_breakdown with ⟨fault, sources, after, rfl, hcall, hevaluate⟩ |
      ⟨outcome, query, rfl, -, houtcome, hread⟩
    · exact .shift htext hfails.visited hfails.mem_placeholders hcall hevaluate
    · exact .reference htext hfails.visited hfails.mem_placeholders houtcome hread

theorem loneSign_of_ofQuery {path : Text} {reason : Query.ReadFault} {breakdown : Breakdown}
    (hfault : Fault.breakdown breakdown = Fault.ofQuery path reason) :
    reason = .loneSign ∧ breakdown = .loneSign := by
  cases reason with
  | malformed => exact nomatch hfault
  | loneSign => exact ⟨rfl, Fault.breakdown.inj hfault⟩

theorem hazard_of_outcome {outcome : Outcome} {breakdown : Breakdown}
    (hfault : outcome.fault? turn.request = some (.breakdown breakdown)) :
    turn.Hazard settings breakdown := by
  unfold Outcome.fault? at hfault
  split at hfault
  · next fault hredacted =>
      obtain rfl := Option.some.inj hfault
      rcases Outcome.fault_of_redacted hredacted with ⟨path, hpath, reason, hread, hreason⟩ |
        ⟨hpaths, cause, hcause⟩
      · obtain ⟨rfl, rfl⟩ := loneSign_of_ofQuery hreason
        exact .ignored hpath hread
      · obtain rfl := Fault.breakdown.inj hcause
        exact .redaction hpaths
  · obtain ⟨expectation, hmem, reason, hread, hreason⟩ := exists_of_checkAll_eq_some hfault
    obtain ⟨rfl, rfl⟩ := loneSign_of_ofQuery hreason
    exact .expectation hmem hread

theorem hazard_of_fault {breakdown : Breakdown}
    (hfault : turn.fault? settings = some (.breakdown breakdown)) :
    turn.Hazard settings breakdown := by
  have hreaches := turn.reaches_stage settings
  unfold fault? at hfault
  generalize turn.stage settings = stage at hreaches hfault
  cases hreaches with
  | skipped => exact nomatch hfault
  | unresolved _ hresolved =>
      obtain rfl := Option.some.inj hfault
      exact hazard_of_resolved hresolved
  | undecodable _ _ hdecoded =>
      obtain ⟨document, rfl⟩ := exists_of_decodeBody_eq_error hdecoded
      exact nomatch hfault
  | unanswered => exact nomatch hfault
  | answered => exact hazard_of_outcome hfault

end Turn

/-- A run has one report for each request, or a turn ends it by a breakdown of which the request has
the cause; all requests before that one are reported and the others are not run.  Whatever else goes
wrong in a turn is the error of its report before that is settled. -/
theorem run_ends_or_breaks_down (settings : Settings) (records : List Record) (session : Session) :
    Linked settings session (session.turns settings records) (session.run settings records).2 ∧
    (∀ turn ∈ session.turns settings records, ∀ problem,
      turn.fault? settings = some (.problem problem) →
        ∃ draft : Report, draft.error = some problem.message ∧
          turn.report settings = .ok (Session.settle turn.request draft)) ∧
    ((∃ reports, (session.run settings records).1 = .ok reports ∧
        (session.turns settings records).map Turn.request = requestsOf records ∧
        List.Forall₂ (fun turn report => turn.report settings = .ok report)
          (session.turns settings records) reports) ∨
      ∃ breakdown earlier reports last rest,
        (session.run settings records).1 = .error breakdown ∧
        session.turns settings records = earlier ++ [last] ∧
        earlier.map Turn.request ++ last.request :: rest = requestsOf records ∧
        List.Forall₂ (fun turn report => turn.report settings = .ok report) earlier reports ∧
        last.fault? settings = some (.breakdown breakdown) ∧
        last.Hazard settings breakdown) := by
  refine ⟨Session.linked_turns records session,
    fun turn _ problem hfault => Turn.report_of_problem hfault, ?_⟩
  rcases session.run_cases settings records with hends |
    ⟨breakdown, earlier, reports, last, rest, hrun, hturns, hrequests, hreports, hlast⟩
  · exact .inl hends
  · have hfault := Turn.report_eq_error_iff.mp hlast
    exact .inr ⟨breakdown, earlier, reports, last, rest, hrun, hturns, hrequests, hreports, hfault,
      Turn.hazard_of_fault hfault⟩

/-- A request that refers to nothing has an error for a report, and the one behind it is run. -/
theorem run_ends_or_breaks_down_undefined :
    ∃ (turn : Turn) (draft : Report) (reports : List Report),
      turn ∈ (Session.start []).turns ⟨[], 30⟩
        [.request (.get "\x7b\x7bx\x7d\x7d" []), .request (.get "/" [])] ∧
      draft.error = some "variable not found: x" ∧
      turn.report ⟨[], 30⟩ = .ok (Session.settle turn.request draft) ∧
      ((Session.start []).run ⟨[], 30⟩
        [.request (.get "\x7b\x7bx\x7d\x7d" []), .request (.get "/" [])]).1 = .ok reports ∧
      reports.map Report.state = [.error, .passed] := by
  let records : List Record :=
    [.request (.get "\x7b\x7bx\x7d\x7d" []), .request (.get "/" [])]
  let turn : Turn := ⟨[], false, .get "\x7b\x7bx\x7d\x7d" [], .start []⟩
  obtain ⟨-, hproblem, -⟩ := run_ends_or_breaks_down ⟨[], 30⟩ records (.start [])
  have hturn : turn ∈ (Session.start []).turns ⟨[], 30⟩ records := List.mem_cons_self
  obtain ⟨draft, hdraft, hreport⟩ := hproblem turn hturn (.undefinedVariable "x") rfl
  exact ⟨turn, draft, ((Session.start []).run ⟨[], 30⟩ records).1.toOption.getD [], hturn, hdraft,
    hreport, rfl, rfl⟩

/-- A document with two requests whose run ends with the first one, since a path to be ignored has a
minus sign for a bound. -/
theorem run_breaks_down :
    ∃ records, Document.read
          "# @ignore $.response.body[-:]\nGET http://a\n\n###\n\nGET http://b\n" = .ok records ∧
      (requestsOf records).length = 2 ∧
      ∀ reports, ((Session.start []).run ⟨[], 30⟩ records).1 ≠ .ok reports := by
  have hcheck : (Document.read
        "# @ignore $.response.body[-:]\nGET http://a\n\n###\n\nGET http://b\n").toOption.map
      (fun records => ((requestsOf records).length,
        ((Session.start []).run ⟨[], 30⟩ records).1.isOk)) = some (2, false) := by
    decide +kernel
  cases hread : Document.read
      "# @ignore $.response.body[-:]\nGET http://a\n\n###\n\nGET http://b\n" with
  | error fault => rw [hread] at hcheck; exact nomatch hcheck
  | ok records =>
      rw [hread] at hcheck
      obtain ⟨hcount, hrun⟩ := Prod.mk.inj (Option.some.inj hcheck)
      refine ⟨records, rfl, hcount, fun reports hreports => ?_⟩
      rw [hreports] at hrun
      exact nomatch hrun

end HttpScript
