import HttpScript.Proofs.Placeholder.Function
import HttpScript.Proofs.Run.Turn
import Mathlib.Data.List.Forall2

/-!
# The turns of a run

A run is written out as the list of its turns.  Each turn begins in the session that the one before
it left, and the last one, if there is any, is the only one that can be without a report: then it
ended the run.  Runs on one session, each of a document of its own, are written out one behind the
other, whether or not they came to their ends.
-/

namespace HttpScript

/-- Whether some request of a document is singled out. -/
def isFocused (records : List Record) : Bool :=
  (requestsOf records).any fun request => request.directives.isSet "only"

/-- Turns of which each begins in the session that the one before it left. -/
inductive Linked (settings : Settings) : Session → List Turn → Session → Prop
  | nil {session} : Linked settings session [] session
  | cons (turn : Turn) {rest last} (hrest : Linked settings (turn.after settings) rest last) :
      Linked settings turn.before (turn :: rest) last

namespace Linked

variable {settings : Settings} {first middle last : Session} {turns more : List Turn}

theorem append (hturns : Linked settings first turns middle)
    (hmore : Linked settings middle more last) : Linked settings first (turns ++ more) last := by
  induction hturns with
  | nil => exact hmore
  | cons turn _ ih => exact .cons turn (ih hmore)

theorem of_append (hlinked : Linked settings first (turns ++ more) last) :
    ∃ middle, Linked settings first turns middle ∧ Linked settings middle more last := by
  induction turns generalizing first with
  | nil => exact ⟨first, .nil, hlinked⟩
  | cons turn rest ih =>
      cases hlinked with
      | cons _ hrest =>
          obtain ⟨middle, hfirst, hmore⟩ := ih hrest
          exact ⟨middle, .cons turn hfirst, hmore⟩

/-- Up to a turn, and with it. -/
theorem upTo {turn : Turn} (hlinked : Linked settings first (turns ++ turn :: more) last) :
    Linked settings first turns turn.before ∧
      Linked settings first (turns ++ [turn]) (turn.after settings) := by
  obtain ⟨middle, hturns, hrest⟩ := hlinked.of_append
  cases hrest with
  | cons => exact ⟨hturns, hturns.append (.cons turn .nil)⟩

end Linked

namespace Session

variable (settings : Settings)

/-- The turns of requests that are run in order, up to one without a report. -/
def turnsOf (globals : Table Variable) (focused : Bool) : List Request → Session → List Turn
  | [], _ => []
  | request :: rest, session =>
      let turn : Turn := ⟨globals, focused, request, session⟩
      match turn.report settings with
      | .error _ => [turn]
      | .ok _ => turn :: turnsOf globals focused rest (turn.after settings)

/-- The turns of the run of a document. -/
def turns (records : List Record) (session : Session) : List Turn :=
  session.turnsOf settings (collectGlobals records) (isFocused records) (requestsOf records)

/-- The session after runs of documents, one after the other. -/
def runs : List (List Record) → Session → Session
  | [], session => session
  | records :: rest, session => runs rest (session.run settings records).2

/-- The turns of runs of documents, one after the other. -/
def history : List (List Record) → Session → List Turn
  | [], _ => []
  | records :: rest, session =>
      session.turns settings records ++ history rest (session.run settings records).2

section Turns

variable (globals : Table Variable) (focused : Bool)

/-! ## One turn after the other -/

theorem runAll_cons (request : Request) (rest : List Request) (session : Session) :
    session.runAll settings globals focused (request :: rest) =
      let turn : Turn := ⟨globals, focused, request, session⟩
      match turn.report settings with
      | .error breakdown => (.error breakdown, turn.after settings)
      | .ok report =>
          (((turn.after settings).runAll settings globals focused rest).1.map (report :: ·),
            ((turn.after settings).runAll settings globals focused rest).2) := by
  unfold Turn.report Turn.after Turn.run Turn.isSkipped
  rfl

variable {settings globals focused} {request : Request} {rest : List Request} {session : Session}

theorem runAll_cons_error {breakdown : Breakdown}
    (hreport : (Turn.mk globals focused request session).report settings = .error breakdown) :
    session.runAll settings globals focused (request :: rest) =
      (.error breakdown, (Turn.mk globals focused request session).after settings) := by
  rw [runAll_cons]
  dsimp only
  rw [hreport]

theorem runAll_cons_ok {report : Report}
    (hreport : (Turn.mk globals focused request session).report settings = .ok report) :
    session.runAll settings globals focused (request :: rest) =
      ((((Turn.mk globals focused request session).after settings).runAll settings globals focused
          rest).1.map (report :: ·),
        (((Turn.mk globals focused request session).after settings).runAll settings globals focused
          rest).2) := by
  rw [runAll_cons]
  dsimp only
  rw [hreport]

theorem turnsOf_cons_error {breakdown : Breakdown}
    (hreport : (Turn.mk globals focused request session).report settings = .error breakdown) :
    session.turnsOf settings globals focused (request :: rest) =
      [Turn.mk globals focused request session] := by
  rw [turnsOf, hreport]

theorem turnsOf_cons_ok {report : Report}
    (hreport : (Turn.mk globals focused request session).report settings = .ok report) :
    session.turnsOf settings globals focused (request :: rest) =
      Turn.mk globals focused request session ::
        ((Turn.mk globals focused request session).after settings).turnsOf settings globals focused
          rest := by
  rw [turnsOf, hreport]

end Turns

/-! ## What is written out is what is run -/

variable {settings} {globals : Table Variable} {focused : Bool}

theorem linked_turnsOf (requests : List Request) (session : Session) :
    Linked settings session (session.turnsOf settings globals focused requests)
      (session.runAll settings globals focused requests).2 := by
  induction requests generalizing session with
  | nil => exact .nil
  | cons request rest ih =>
      cases hreport : (Turn.mk globals focused request session).report settings with
      | error breakdown =>
          rw [turnsOf_cons_error hreport, runAll_cons_error hreport]
          exact Linked.cons ⟨globals, focused, request, session⟩ .nil
      | ok report =>
          rw [turnsOf_cons_ok hreport, runAll_cons_ok hreport]
          exact Linked.cons ⟨globals, focused, request, session⟩ (ih _)

theorem linked_turns (records : List Record) (session : Session) :
    Linked settings session (session.turns settings records) (session.run settings records).2 :=
  linked_turnsOf (requestsOf records) session

theorem linked_history (documents : List (List Record)) (session : Session) :
    Linked settings session (session.history settings documents)
      (session.runs settings documents) := by
  induction documents generalizing session with
  | nil => exact .nil
  | cons records rest ih => exact (linked_turns records session).append (ih _)

/-! ## Whose turns they are -/

theorem globals_of_mem_turnsOf {requests : List Request} {session : Session} {turn : Turn}
    (hturn : turn ∈ session.turnsOf settings globals focused requests) :
    turn.globals = globals ∧ turn.focused = focused := by
  induction requests generalizing session with
  | nil => exact nomatch hturn
  | cons request rest ih =>
      cases hreport : (Turn.mk globals focused request session).report settings with
      | error breakdown =>
          rw [turnsOf_cons_error hreport] at hturn
          rw [List.mem_singleton.mp hturn]
          exact ⟨rfl, rfl⟩
      | ok report =>
          rw [turnsOf_cons_ok hreport] at hturn
          rcases List.mem_cons.mp hturn with rfl | hturn
          · exact ⟨rfl, rfl⟩
          · exact ih hturn

/-- Either every request has its turn and its report, or the run ends with the turn of a request
that has no report. -/
theorem runAll_cases (requests : List Request) (session : Session) :
    (∃ reports, (session.runAll settings globals focused requests).1 = .ok reports ∧
        (session.turnsOf settings globals focused requests).map Turn.request = requests ∧
        List.Forall₂ (fun turn report => turn.report settings = .ok report)
          (session.turnsOf settings globals focused requests) reports) ∨
      ∃ breakdown earlier reports last rest,
        (session.runAll settings globals focused requests).1 = .error breakdown ∧
        session.turnsOf settings globals focused requests = earlier ++ [last] ∧
        earlier.map Turn.request ++ last.request :: rest = requests ∧
        List.Forall₂ (fun turn report => turn.report settings = .ok report) earlier reports ∧
        last.report settings = .error breakdown := by
  induction requests generalizing session with
  | nil => exact .inl ⟨[], rfl, rfl, .nil⟩
  | cons request rest ih =>
      cases hreport : (Turn.mk globals focused request session).report settings with
      | error breakdown =>
          rw [turnsOf_cons_error hreport, runAll_cons_error hreport]
          exact .inr ⟨breakdown, [], [], _, rest, rfl, rfl, rfl, .nil, hreport⟩
      | ok report =>
          rw [turnsOf_cons_ok hreport, runAll_cons_ok hreport]
          rcases ih ((Turn.mk globals focused request session).after settings) with
            ⟨reports, hrun, hrequests, hreports⟩ |
            ⟨breakdown, earlier, reports, last, others, hrun, hturns, hrequests, hreports, hlast⟩
          · refine .inl ⟨report :: reports, ?_, ?_, .cons hreport hreports⟩
            · rw [hrun]
              rfl
            · rw [List.map_cons, hrequests]
          · refine .inr ⟨breakdown, _ :: earlier, report :: reports, last, others, ?_, ?_, ?_,
              .cons hreport hreports, hlast⟩
            · rw [hrun]
              rfl
            · rw [hturns]
              rfl
            · rw [List.map_cons, List.cons_append, hrequests]

theorem run_cases (settings : Settings) (records : List Record) (session : Session) :
    (∃ reports, (session.run settings records).1 = .ok reports ∧
        (session.turns settings records).map Turn.request = requestsOf records ∧
        List.Forall₂ (fun turn report => turn.report settings = .ok report)
          (session.turns settings records) reports) ∨
      ∃ breakdown earlier reports last rest,
        (session.run settings records).1 = .error breakdown ∧
        session.turns settings records = earlier ++ [last] ∧
        earlier.map Turn.request ++ last.request :: rest = requestsOf records ∧
        List.Forall₂ (fun turn report => turn.report settings = .ok report) earlier reports ∧
        last.report settings = .error breakdown :=
  runAll_cases (requestsOf records) session

end Session

/-! ## A session to begin with -/

/-- A reply without headers and without a body. -/
def Reply.ofStatus (status : Int) : Reply where
  status := status
  statusText := []
  headers := []
  body := .null
  rawText := []
  elapsed := .signedZero false
  error := none

/-- A request that has an address and directives and nothing else. -/
def Request.get (url : Text) (directives : Directives) : Request where
  line := 1
  declared := []
  directives := directives
  method := "GET"
  url := url
  headers := []
  body := none
  bodyJson := none

/-- A session in which nothing was run yet, with replies of some statuses to come. -/
def Session.start (statuses : List Int) : Session where
  outcomes := []
  sources := .sample
  transport := ⟨statuses.map fun status => .reply (.ofStatus status), .reply (.ofStatus 200)⟩
  calls := []
  log := []

end HttpScript
