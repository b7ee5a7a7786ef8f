import HttpScript.Proofs.Run.Breakdowns
import HttpScript.Proofs.Run.Sequence
import HttpScript.Proofs.Text.Lines

/-!
# What the state of a report says

A report has a state, an error and failures, and the state is settled last.  That the three always
agree rests on one fact about everything that is written into a report before: no error and no
failure is the empty text (`Report.IsWorded`).  Hence the complaint of a report is empty just if the
request succeeded, and settling can go by the complaint alone.

Nothing but this last step looks at the directive by which a request should fail.  So two requests
that differ in it alone come to the same report, and whether it passes is all that the directive
changes.

| | succeeded | failed or had an error |
| --- | --- | --- |
| should succeed | passed | failed, error |
| should fail | failed | passed |
| should fail by a pattern | failed | passed if the pattern matches, failed otherwise |
-/

namespace HttpScript

/-! ## Every problem is worded -/

namespace Fault

/-- A fault that is not a problem without a wording. -/
def IsWorded (fault : Fault) : Prop :=
  ∀ problem, fault = .problem problem → problem.message ≠ []

theorem isWorded_breakdown (breakdown : Breakdown) : IsWorded (.breakdown breakdown) := by
  intro problem heq
  cases heq

theorem isWorded_problem {problem : Problem} (hmessage : problem.message ≠ []) :
    IsWorded (.problem problem) := by
  intro other heq
  rwa [← Fault.problem.inj heq]

theorem isWorded_ofQuery (path : Text) (reason : Query.ReadFault) :
    IsWorded (ofQuery path reason) := by
  cases reason with
  | malformed => exact isWorded_problem (List.cons_ne_nil _ _)
  | loneSign => exact isWorded_breakdown _

end Fault

theorem Problem.OfCall.message_ne_nil {problem : Problem} (hcall : problem.OfCall) :
    problem.message ≠ [] := by
  cases hcall <;> exact List.cons_ne_nil _ _

theorem LeadFault.isWorded {scope : Scope} {inGlobal : Bool} {identifier : Text} {fault : Fault}
    (hfault : LeadFault scope inGlobal identifier fault) : fault.IsWorded := by
  cases hfault with
  | call _ hfault =>
      cases Function.failsAsCall_evaluate identifier _ _ (congrArg Prod.fst hfault) with
      | problem problem hown => exact Fault.isWorded_problem hown.message_ne_nil
      | shift reason => exact Fault.isWorded_breakdown _
  | query _ _ _ => exact Fault.isWorded_ofQuery _ _
  | hidden => exact Fault.isWorded_problem (List.cons_ne_nil _ _)
  | undefined => exact Fault.isWorded_problem (List.cons_ne_nil _ _)

theorem isWorded_of_expand {scope : Scope} {text : Text} {sources : Sources} {fault : Fault}
    (hfault : ((expand scope text).outcome sources).1 = .error fault) : fault.IsWorded := by
  obtain ⟨path, inGlobal, inner, identifier, hfails⟩ := exists_failsAt hfault
  rcases hfails.fault_of_follow with ⟨-, rfl⟩ | hlead
  · exact Fault.isWorded_problem (List.cons_ne_nil _ _)
  · exact hlead.isWorded

theorem Turn.isWorded_of_resolved {settings : Settings} {turn : Turn} {fault : Fault}
    (hresolved : turn.resolved settings = .error fault) : fault.IsWorded := by
  obtain ⟨text, -, sources, hfault⟩ := Request.exists_of_resolve_eq_error hresolved
  exact isWorded_of_expand hfault

theorem Outcome.isWorded_of_decodeBody {request : Request} {body : Option Text} {fault : Fault}
    (hdecoded : decodeBody request body = .error fault) : fault.IsWorded := by
  obtain ⟨document, rfl⟩ := exists_of_decodeBody_eq_error hdecoded
  exact Fault.isWorded_problem (List.cons_ne_nil _ _)

theorem Outcome.isWorded_of_redacted {outcome : Outcome} {directives : Directives} {fault : Fault}
    (hredacted : outcome.redacted directives = .error fault) : fault.IsWorded := by
  rcases fault_of_redacted hredacted with ⟨path, -, reason, -, rfl⟩ | ⟨-, cause, rfl⟩
  · exact Fault.isWorded_ofQuery path reason
  · exact Fault.isWorded_breakdown _

theorem Reply.failure?_ne_nil {reply : Reply} {message : Text}
    (hfailure : reply.failure? = some message) : message ≠ [] := by
  rintro rfl
  have hgiven := (Option.filter_eq_some_iff.mp hfailure).2
  simp at hgiven

namespace Session

theorem failure_ne_nil_of_checkAll {data : Json} {expectations : List Expectation} :
    ∀ failure ∈ (checkAll data expectations).1, failure ≠ [] := by
  induction expectations with
  | nil => exact List.forall_mem_nil _
  | cons expectation rest ih =>
      have hmessage (found : List Json) : (expectation.judge found).message ≠ [] := by
        unfold Expectation.judge
        dsimp only
        split <;> exact List.cons_ne_nil _ _
      rw [checkAll, Expectation.check]
      cases Query.read expectation.path with
      | error reason => exact List.forall_mem_nil _
      | ok segments =>
          intro failure hfailure
          rcases List.mem_append.mp hfailure with hfailure | hfailure
          · split at hfailure
            · cases hfailure
            · rw [List.mem_singleton.mp hfailure]
              exact hmessage _
          · exact ih failure hfailure

theorem isWorded_of_checkAll {data : Json} {expectations : List Expectation} {fault : Fault}
    (hfault : (checkAll data expectations).2 = some fault) : fault.IsWorded := by
  obtain ⟨expectation, -, reason, -, rfl⟩ := exists_of_checkAll_eq_some hfault
  exact Fault.isWorded_ofQuery _ _

end Session

/-! ## What is in a report before its state is settled -/

/-- A report whose error and failures, as far as it has any, are worded. -/
structure Report.IsWorded (report : Report) : Prop where
  error : report.error ≠ some []
  failures : ∀ failure ∈ report.failures, failure ≠ []

namespace Session

theorem isWorded_of_withFault {report draft : Report} {fault : Fault} (hreport : report.IsWorded)
    (hfault : fault.IsWorded) (hdraft : withFault report fault = .ok draft) : draft.IsWorded := by
  cases fault with
  | breakdown breakdown => cases hdraft
  | problem problem =>
      rw [← Except.ok.inj hdraft]
      refine ⟨fun heq => ?_, hreport.failures⟩
      exact hfault problem rfl (Option.some.inj heq)

theorem isWorded_blank (title : Title) (state : RunState) : (blank title state).IsWorded where
  error := nofun
  failures := List.forall_mem_nil _

theorem isWorded_of_judge {request : Request} {report draft : Report} {outcome : Outcome}
    (hreport : report.IsWorded) (hdraft : judge request report outcome = .ok draft) :
    draft.IsWorded := by
  unfold judge at hdraft
  cases hredacted : outcome.redacted request.directives with
  | error fault =>
      rw [hredacted] at hdraft
      refine isWorded_of_withFault ?_ (Outcome.isWorded_of_redacted hredacted) hdraft
      exact ⟨hreport.error, hreport.failures⟩
  | ok redacted =>
      rw [hredacted] at hdraft
      dsimp only at hdraft
      split at hdraft
      · rw [← Except.ok.inj hdraft]
        exact ⟨hreport.error, failure_ne_nil_of_checkAll⟩
      · next fault hfault =>
          refine isWorded_of_withFault ?_ (isWorded_of_checkAll hfault) hdraft
          exact ⟨hreport.error, failure_ne_nil_of_checkAll⟩

theorem isWorded_of_attempt {settings : Settings} {globals : Table Variable} {request : Request}
    {session : Session} {draft : Report}
    (hdraft : (session.attempt settings globals request).1 = .ok draft) : draft.IsWorded := by
  let turn : Turn := ⟨globals, false, request, session⟩
  have hresolve : session.resolve settings globals request = _ := turn.resolve_eq settings
  unfold attempt at hdraft
  rw [hresolve] at hdraft
  dsimp only at hdraft
  cases hresolved : turn.resolved settings with
  | error fault =>
      rw [hresolved] at hdraft
      exact isWorded_of_withFault (isWorded_blank _ _) (Turn.isWorded_of_resolved hresolved) hdraft
  | ok sent =>
      rw [hresolved] at hdraft
      dsimp only at hdraft
      cases hdecoded : Outcome.decodeBody request sent.body with
      | error fault =>
          rw [hdecoded] at hdraft
          exact isWorded_of_withFault (isWorded_blank _ _)
            (Outcome.isWorded_of_decodeBody hdecoded) hdraft
      | ok body =>
          have hexecute : (turn.afterResolving settings).execute settings request sent body = _ :=
            turn.execute_eq settings sent body
          rw [hdecoded] at hdraft
          dsimp only at hdraft
          rw [hexecute] at hdraft
          cases hfailure : (turn.reply settings sent).failure? with
          | some message =>
              rw [hfailure] at hdraft
              exact isWorded_of_withFault (isWorded_blank _ _)
                (Fault.isWorded_problem (Reply.failure?_ne_nil hfailure)) hdraft
          | none =>
              rw [hfailure] at hdraft
              exact isWorded_of_judge (isWorded_blank _ _) hdraft

end Session

/-! ## Settling a state -/

/-- A report whose state says what its error and its failures say. -/
structure Report.IsConsistent (report : Report) : Prop where
  passed : report.state = .passed ↔ report.error = none ∧ report.failures = []
  failed : report.state = .failed ↔ report.error = none ∧ report.failures ≠ []
  error : report.state = .error ↔ report.error ≠ none

namespace Session

variable {draft : Report}

theorem join_ne_nil {parts : List Text} (hnil : parts ≠ []) (hparts : ∀ part ∈ parts, part ≠ [])
    (separator : Text) : Text.join separator parts ≠ [] := by
  obtain ⟨first, rest, rfl⟩ := List.exists_cons_of_ne_nil hnil
  have hfirst : first ≠ [] := hparts first List.mem_cons_self
  cases rest with
  | nil => rwa [Text.join, List.intercalate_singleton]
  | cons second rest =>
      rw [Text.join_cons, List.append_assoc]
      exact List.append_ne_nil_of_left_ne_nil hfirst _

/-- A report without a complaint is one without an error and without failures. -/
theorem complaint_eq_nil_iff (hdraft : draft.IsWorded) :
    complaint draft = [] ↔ draft.error = none ∧ draft.failures = [] := by
  unfold complaint
  cases herror : draft.error with
  | some message =>
      have hmessage : message ≠ [] := by
        rintro rfl
        exact hdraft.error herror
      simp [hmessage]
  | none =>
      by_cases hfailures : draft.failures = []
      · simp [hfailures, Text.join]
      · simp [hfailures, join_ne_nil hfailures hdraft.failures]

theorem isConsistent_settlePlain (report : Report) : (settlePlain report).IsConsistent := by
  unfold settlePlain
  cases herror : report.error with
  | some message => constructor <;> simp
  | none => cases hfailures : report.failures <;> constructor <;> simp

theorem settlePlain_error (report : Report) : (settlePlain report).error = report.error := rfl

theorem settlePlain_failures (report : Report) :
    (settlePlain report).failures = report.failures := rfl

theorem settlePlain_passed_iff (hdraft : draft.IsWorded) :
    (settlePlain draft).state = .passed ↔ complaint draft = [] :=
  (isConsistent_settlePlain draft).passed.trans (complaint_eq_nil_iff hdraft).symm

theorem isConsistent_settleThrowing (hdraft : draft.IsWorded) (pattern : Option Text) :
    (settleThrowing pattern draft).IsConsistent := by
  unfold settleThrowing
  dsimp only
  by_cases hcomplaint : complaint draft = []
  · obtain ⟨herror, -⟩ := (complaint_eq_nil_iff hdraft).mp hcomplaint
    rw [hcomplaint, List.isEmpty_nil, if_pos rfl]
    constructor <;> simp [herror]
  · rw [if_neg (by rwa [List.isEmpty_iff])]
    cases pattern with
    | none => constructor <;> simp
    | some text =>
        dsimp only
        split <;> constructor <;> simp

/-- Every settled report is consistent. -/
theorem isConsistent_settle (hdraft : draft.IsWorded) (request : Request) :
    (settle request draft).IsConsistent := by
  unfold settle
  split
  · exact isConsistent_settleThrowing hdraft none
  · exact isConsistent_settleThrowing hdraft _
  · exact isConsistent_settlePlain draft

theorem exists_settleThrowing_eq (pattern : Option Text) (report : Report) :
    ∃ state failures error,
      settleThrowing pattern report = { report with state, failures, error } := by
  unfold settleThrowing
  dsimp only
  split
  · exact ⟨_, _, _, rfl⟩
  · cases pattern with
    | none => exact ⟨_, _, _, rfl⟩
    | some text =>
        dsimp only
        split <;> exact ⟨_, _, _, rfl⟩

/-- Settling changes the state, the failures and the error of a report and nothing else. -/
theorem exists_settle_eq (request : Request) (report : Report) :
    ∃ state failures error,
      settle request report = { report with state, failures, error } := by
  unfold settle
  split
  · exact exists_settleThrowing_eq none report
  · exact exists_settleThrowing_eq _ report
  · exact ⟨_, _, _, rfl⟩

theorem settleThrowing_none_passed_iff (report : Report) :
    (settleThrowing none report).state = .passed ↔ complaint report ≠ [] := by
  unfold settleThrowing
  by_cases hcomplaint : complaint report = [] <;> simp [hcomplaint]

theorem settleThrowing_none_failed_iff (report : Report) :
    (settleThrowing none report).state = .failed ↔ complaint report = [] := by
  unfold settleThrowing
  by_cases hcomplaint : complaint report = [] <;> simp [hcomplaint]

theorem settleThrowing_some_passed_iff {text : Text} {pattern : Pattern}
    (hread : Pattern.read text = .ok pattern) (report : Report) :
    (settleThrowing (some text) report).state = .passed ↔
      complaint report ≠ [] ∧ pattern.search (complaint report) = true := by
  have hpattern : Outcome.pattern? text = some pattern := by
    rw [Outcome.pattern?, hread]
    rfl
  unfold settleThrowing
  by_cases hcomplaint : complaint report = []
  · simp [hcomplaint]
  · by_cases hsearch : pattern.search (complaint report) = true <;>
      simp [hcomplaint, hpattern, hsearch]

end Session

/-! ## Two requests that differ in one directive -/

/-- Requests that differ at most in the directive by which a request should fail. -/
structure Request.AgreeButThrows (request other : Request) : Prop where
  rest : other = { request with directives := other.directives }
  directives : ∀ name : Text, name ≠ "throws" →
    Table.get? other.directives name = Table.get? request.directives name

namespace Request.AgreeButThrows

variable {request other : Request}

theorem value?_eq (hagree : request.AgreeButThrows other) {name : Text}
    (hname : name ≠ "throws") :
    other.directives.value? name = request.directives.value? name := by
  rw [Directives.value?, Directives.value?, hagree.directives name hname]

/-- Up to its report, a request that should fail is run like one that should succeed. -/
theorem attempt_eq (hagree : request.AgreeButThrows other) (settings : Settings)
    (globals : Table Variable) (session : Session) :
    session.attempt settings globals other = session.attempt settings globals request := by
  have htitle : Session.title other = Session.title request := by
    funext url
    rw [Session.title, Session.title, hagree.value?_eq (by decide), hagree.rest]
  have hexpectations : other.expectations = request.expectations := by
    rw [Request.expectations, Request.expectations, Directives.expectations,
      Directives.expectations, Directives.statusExpectations, Directives.statusExpectations,
      hagree.value?_eq (by decide), hagree.value?_eq (by decide)]
  have hredacted (outcome : Outcome) :
      outcome.redacted other.directives = outcome.redacted request.directives := by
    rw [Outcome.redacted, Outcome.redacted, Directives.ignoredPaths, Directives.ignoredPaths,
      Directives.text?, Directives.text?, hagree.value?_eq (by decide),
      hagree.value?_eq (by decide)]
  have hname : other.name? = request.name? := by
    rw [Request.name?, Request.name?, Directives.text?, Directives.text?,
      hagree.value?_eq (by decide)]
  have hresolve : session.resolve settings globals other =
      session.resolve settings globals request := by
    rw [hagree.rest]
    rfl
  have hdecode (body : Option Text) :
      Outcome.decodeBody other body = Outcome.decodeBody request body := by
    rw [hagree.rest]
    rfl
  have hregister (outcome : Outcome) (session : Session) :
      session.register other outcome = session.register request outcome := by
    rw [Session.register, Session.register, hname]
  have hexecute (sent : ResolvedRequest) (body : Option Json) (session : Session) :
      session.execute settings other sent body = session.execute settings request sent body := by
    simp only [Session.execute, hregister]
  have hjudge (report : Report) (outcome : Outcome) :
      Session.judge other report outcome = Session.judge request report outcome := by
    simp only [Session.judge, hredacted, hexpectations]
  have hurl : other.url = request.url := by rw [hagree.rest]
  unfold Session.attempt
  simp only [htitle, hresolve, hdecode, hexecute, hjudge, hurl]

end Request.AgreeButThrows

/-- What the report of a request that should fail says beside the report that the same request has
when it should succeed. -/
structure Report.Inverts (inverted report : Report) (throws : Option DirectiveValue) : Prop where
  outcome : inverted.outcome = report.outcome
  redacted : inverted.redacted = report.redacted
  bare : throws = some .bare →
    (inverted.state = .passed ↔ report.state = .failed ∨ report.state = .error) ∧
      (inverted.state = .failed ↔ report.state = .passed)
  pattern : ∀ text pattern, throws = some (.text text) → Pattern.read text = .ok pattern →
    (inverted.state = .passed ↔ report.state ≠ .passed ∧
      pattern.search (report.error.getD (Text.join ['\n'] report.failures)) = true)

namespace Session

theorem complaint_eq_getD (report : Report) :
    complaint report = report.error.getD (Text.join ['\n'] report.failures) := by
  unfold complaint
  cases report.error <;> rfl

theorem settlePlain_ne_passed_iff (report : Report) :
    (settlePlain report).state ≠ .passed ↔
      (settlePlain report).state = .failed ∨ (settlePlain report).state = .error := by
  have hskipped := Turn.settlePlain_state report
  cases hstate : (settlePlain report).state with
  | skipped => exact absurd hstate hskipped
  | _ => simp

theorem settle_of_bare {request : Request} {draft : Report}
    (hbare : request.directives.value? "throws" = some .bare) :
    settle request draft = settleThrowing none draft := by
  rw [settle, hbare]

theorem settle_of_text {request : Request} {draft : Report} {pattern : Text}
    (htext : request.directives.value? "throws" = some (.text pattern)) :
    settle request draft = settleThrowing (some pattern) draft := by
  rw [settle, htext]

theorem inverts_settle {draft : Report} (hdraft : draft.IsWorded) (request : Request) :
    (settle request draft).Inverts (settlePlain draft) (request.directives.value? "throws") := by
  have hpassed := settlePlain_passed_iff hdraft
  obtain ⟨state, failures, error, hkept⟩ := exists_settle_eq request draft
  refine ⟨?_, ?_, fun hbare => ?_, fun text pattern htext hread => ?_⟩
  · rw [hkept]
    rfl
  · rw [hkept]
    rfl
  · rw [settle_of_bare hbare, settleThrowing_none_passed_iff, settleThrowing_none_failed_iff,
      ← settlePlain_ne_passed_iff, hpassed]
    exact ⟨(not_congr hpassed).symm, Iff.rfl⟩
  · rw [settle_of_text htext, settleThrowing_some_passed_iff hread, settlePlain_error,
      settlePlain_failures, ← complaint_eq_getD]
    exact and_congr_left' (not_congr hpassed).symm

theorem runRequest_eq (settings : Settings) (globals : Table Variable) (request : Request)
    (session : Session) :
    session.runRequest settings globals request =
      ((session.attempt settings globals request).1.map (settle request),
        (session.attempt settings globals request).2) := rfl

theorem isConsistent_of_run {settings : Settings} {records : List Record} {session : Session}
    {reports : List Report} (hrun : (session.run settings records).1 = .ok reports) :
    ∀ report ∈ reports, report.state ≠ .skipped → report.IsConsistent := by
  intro report hreport hstate
  have hreports := (turns_of_run hrun).2
  obtain ⟨position, rfl⟩ := List.mem_iff_get.mp hreport
  have hposition : position.val < (session.turns settings records).length := by
    rw [hreports.length_eq]
    exact position.isLt
  obtain ⟨turn, hturn⟩ : ∃ turn : Turn, turn.report settings = .ok (reports.get position) :=
    ⟨_, hreports.get hposition position.isLt⟩
  have hruns : turn.isSkipped = false := by
    rw [← Bool.not_eq_true]
    exact mt (Turn.state_of_report settings turn hturn).mpr hstate
  unfold Turn.report Turn.run at hturn
  rw [hruns, if_neg Bool.false_ne_true, runRequest_eq] at hturn
  cases hattempt : (turn.before.attempt settings turn.globals turn.request).1 with
  | error breakdown =>
      rw [hattempt] at hturn
      cases hturn
  | ok draft =>
      rw [hattempt] at hturn
      rw [← Except.ok.inj hturn]
      exact isConsistent_settle (isWorded_of_attempt hattempt) turn.request

/-- In a run that comes to its end, the state of every report that was not left out says what its
error and its failures say.  A request that should fail is run like one that should succeed, and its
report passes just where the other does not, as far as its pattern matches. -/
theorem isConsistent_and_inverts (settings : Settings) :
    (∀ (records : List Record) (session : Session) (reports : List Report),
      (session.run settings records).1 = .ok reports →
        ∀ report ∈ reports, report.state ≠ .skipped → report.IsConsistent) ∧
    ∀ (globals : Table Variable) (session : Session) (plain throwing : Request),
      plain.AgreeButThrows throwing → plain.directives.value? "throws" = none →
        (session.runRequest settings globals throwing).2 =
          (session.runRequest settings globals plain).2 ∧
        (∀ breakdown, (session.runRequest settings globals plain).1 = .error breakdown →
          (session.runRequest settings globals throwing).1 = .error breakdown) ∧
        ∀ report, (session.runRequest settings globals plain).1 = .ok report →
          ∃ inverted, (session.runRequest settings globals throwing).1 = .ok inverted ∧
            inverted.Inverts report (throwing.directives.value? "throws") := by
  refine ⟨fun records session reports hrun => isConsistent_of_run hrun,
    fun globals session plain throwing hagree hplain => ?_⟩
  have hattempt := hagree.attempt_eq settings globals session
  have hsettle (draft : Report) : settle plain draft = settlePlain draft := by
    rw [settle, hplain]
  rw [runRequest_eq, runRequest_eq, hattempt]
  cases hdraft : (session.attempt settings globals plain).1 with
  | error breakdown =>
      refine ⟨rfl, fun other hother => hother, fun report hreport => ?_⟩
      cases hreport
  | ok draft =>
      refine ⟨rfl, fun breakdown hbreakdown => ?_, fun report hreport => ?_⟩
      · cases hbreakdown
      · obtain rfl := Except.ok.inj hreport
        rw [hsettle]
        exact ⟨settle throwing draft, rfl, inverts_settle (isWorded_of_attempt hdraft) throwing⟩

/-- A request that expects another status than the reply has fails, and it passes when it should
fail by a pattern that the failure matches. -/
theorem isConsistent_and_inverts_status :
    ∃ report inverted : Report,
      ((Session.start [500]).run ⟨[], 30⟩
        [.request (.get "/" [("status", ⟨.status 200 none, false⟩)])]).1 = .ok [report] ∧
      report.state = .failed ∧ report.IsConsistent ∧
      ((Session.start [500]).runRequest ⟨[], 30⟩ []
        (.get "/" [("status", ⟨.status 200 none, false⟩),
          ("throws", ⟨.text "actual: 50.", false⟩)])).1 = .ok inverted ∧
      inverted.state = .passed := by
  let plain : Request := .get "/" [("status", ⟨.status 200 none, false⟩)]
  let throwing : Request := .get "/" [("status", ⟨.status 200 none, false⟩),
    ("throws", ⟨.text "actual: 50.", false⟩)]
  have hagree : plain.AgreeButThrows throwing := by
    refine ⟨rfl, fun name hname => ?_⟩
    have hget : Table.get? throwing.directives name =
        if "status".toList = name then some ⟨.status 200 none, false⟩
        else if "throws".toList = name then some ⟨.text "actual: 50.", false⟩ else none := rfl
    rw [hget, if_neg (Ne.symm hname)]
    rfl
  have hplain : ((Session.start [500]).runRequest ⟨[], 30⟩ [] plain).1.toOption.map
      (fun report => (report.state, report.error, report.failures)) =
        some (.failed, none, ["EXPECT FAILED: $.response.status == 200 (actual: 500)".toList]) := by
    decide +kernel
  have hsearch : (Pattern.read "actual: 50.").toOption.map (fun pattern =>
      pattern.search "EXPECT FAILED: $.response.status == 200 (actual: 500)") = some true := by
    decide +kernel
  obtain ⟨hconsistent, hinverts⟩ := isConsistent_and_inverts ⟨[], 30⟩
  have hthrowing := (hinverts [] (.start [500]) plain throwing hagree rfl).2.2
  cases hreport : ((Session.start [500]).runRequest ⟨[], 30⟩ [] plain).1 with
  | error breakdown =>
      rw [hreport] at hplain
      cases hplain
  | ok report =>
      rw [hreport] at hplain
      obtain ⟨hstate, hrest⟩ := Prod.mk.inj (Option.some.inj hplain)
      obtain ⟨herror, hfailures⟩ := Prod.mk.inj hrest
      obtain ⟨inverted, hinverted, hof⟩ := hthrowing report hreport
      cases hpattern : Pattern.read "actual: 50." with
      | error fault =>
          rw [hpattern] at hsearch
          cases hsearch
      | ok pattern =>
          rw [hpattern] at hsearch
          have hrun : ((Session.start [500]).run ⟨[], 30⟩ [.request plain]).1 = .ok [report] := by
            have hone : ((Session.start [500]).run ⟨[], 30⟩ [.request plain]).1 =
                ((Session.start [500]).runRequest ⟨[], 30⟩ [] plain).1.map ([·]) := rfl
            rw [hone, hreport]
            rfl
          have hran : report.state ≠ .skipped := by
            rw [hstate]
            decide
          refine ⟨report, inverted, hrun, hstate, ?_, hinverted, ?_⟩
          · exact hconsistent _ _ _ hrun report (List.mem_singleton_self report) hran
          · refine (hof.pattern _ pattern rfl hpattern).mpr ⟨by rw [hstate]; decide, ?_⟩
            rw [herror, hfailures]
            exact Option.some.inj hsearch

end Session

end HttpScript
