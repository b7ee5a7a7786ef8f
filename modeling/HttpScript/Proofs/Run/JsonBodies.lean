import HttpScript.Proofs.Placeholder.Requests
import HttpScript.Proofs.Run.Breakdowns
import HttpScript.Proofs.Run.Sequence

/-!
# Bodies that are sent as JSON

Whether a request is sent as JSON is taken from its content type as it is written.  If that names
JSON, the expanded body is read before anything is sent, and a body that cannot be read is the
error of its request.

What goes to the transport is the expanded content type.  Where that names JSON and the written one
does not, nobody has looked at the body (`run_sends_unread_json`).  This takes a placeholder in the
content type: there is no other way for a body that cannot be read to be sent as JSON
(`run_sends_json`).
-/

namespace HttpScript

namespace Outcome

variable {request : Request} {body : Text}

theorem decodeBody_of_isJson (hjson : request.isJson = true) (hbody : body ≠ []) :
    decodeBody request (some body) =
      match Json.read body with
      | .ok .null => .ok none
      | .ok value => .ok (some value)
      | .error fault =>
          .error (.problem (.document ⟨.badJsonBody fault.problem, request.line, body⟩)) := by
  obtain ⟨c, rest, rfl⟩ := List.exists_cons_of_ne_nil hbody
  exact if_pos hjson

theorem exists_of_decodeBody_eq_ok {decoded : Option Json} (hjson : request.isJson = true)
    (hbody : body ≠ []) (hdecoded : decodeBody request (some body) = .ok decoded) :
    ∃ value, Json.read body = .ok value := by
  rw [decodeBody_of_isJson hjson hbody] at hdecoded
  cases hread : Json.read body with
  | ok value => exact ⟨value, rfl⟩
  | error fault =>
      rw [hread] at hdecoded
      exact nomatch hdecoded

theorem decodeBody_of_unreadable {fault : Json.ReadFault} (hjson : request.isJson = true)
    (hbody : body ≠ []) (hread : Json.read body = .error fault) :
    decodeBody request (some body) =
      .error (.problem (.document ⟨.badJsonBody fault.problem, request.line, body⟩)) := by
  rw [decodeBody_of_isJson hjson hbody, hread]

end Outcome

namespace Turn

variable {settings : Settings} {turn : Turn} {call : Call} {body : Text}

/-- A request whose content type names JSON as it is written is sent with a body that can be
read. -/
theorem exists_json_of_call? (hcall : turn.call? settings = some call)
    (hjson : turn.request.isJson = true) (hbody : call.body = some body) (hne : body ≠ []) :
    ∃ value, Json.read body = .ok value := by
  obtain ⟨-, sent, decoded, -, hdecoded, rfl⟩ := (turn.call?_eq_some_iff settings).mp hcall
  have hsent : sent.body = some body := hbody
  rw [hsent] at hdecoded
  exact Outcome.exists_of_decodeBody_eq_ok hjson hne hdecoded

/-- The headers of a call are those of the request, expanded. -/
theorem exists_written_of_call? (hcall : turn.call? settings = some call) {name value : Text}
    (hheader : findHeader call.headers name = some value) :
    ∃ written sources, turn.request.header? name = some written ∧
      ((expand (turn.scope settings) written).outcome sources).1 = .ok value := by
  obtain ⟨-, sent, decoded, hresolved, -, rfl⟩ := (turn.call?_eq_some_iff settings).mp hcall
  exact Request.exists_of_resolve_eq_ok hresolved hheader

/-- A content type that names JSON when it is sent names it as it is written, unless a placeholder
in it has made it so. -/
theorem isJson_of_call? (hcall : turn.call? settings = some call) {type : Text}
    (hheader : findHeader call.headers "content-type" = some type)
    (hjson : Request.namesJson type = true) :
    turn.request.isJson = true ∨ ∃ written sources,
      turn.request.header? "content-type" = some written ∧ Request.namesJson written = false ∧
      placeholders written ≠ [] ∧
      ((expand (turn.scope settings) written).outcome sources).1 = .ok type := by
  obtain ⟨written, sources, hwritten, hexpanded⟩ := exists_written_of_call? hcall hheader
  have hisJson : turn.request.isJson = Request.namesJson written := by
    rw [Request.isJson, hwritten, Option.any_some]
  cases hnames : Request.namesJson written with
  | true => exact .inl (hisJson.trans hnames)
  | false =>
      -- without placeholders the same text would name JSON and not name it
      refine .inr ⟨written, sources, hwritten, hnames, fun hplain => ?_, hexpanded⟩
      rw [outcome_expand_of_plain hplain] at hexpanded
      obtain rfl := Except.ok.inj hexpanded
      exact nomatch hnames.symm.trans hjson

theorem stage_of_undecodable {sent : ResolvedRequest} {fault : Fault}
    (hruns : turn.isSkipped = false) (hresolved : turn.resolved settings = .ok sent)
    (hdecoded : Outcome.decodeBody turn.request sent.body = .error fault) :
    turn.stage settings = .undecodable sent fault := by
  rw [stage, hruns, if_neg Bool.false_ne_true, hresolved]
  dsimp only
  rw [hdecoded]

end Turn

/-- Whatever a run sends as JSON can be read, or a placeholder in the content type has made it JSON.
Where the content type names JSON as it is written, a body that cannot be read is not sent and is
the error of its request, at the line of that request. -/
theorem run_sends_json (settings : Settings) (records : List Record) (session : Session) :
    (session.run settings records).2.calls =
      session.calls ++ (session.turns settings records).filterMap (Turn.call? settings) ∧
    ∀ turn ∈ session.turns settings records,
      (∀ call body type, turn.call? settings = some call → call.body = some body → body ≠ [] →
        findHeader call.headers "content-type" = some type → Request.namesJson type = true →
        (∃ value, Json.read body = .ok value) ∨ ∃ written sources,
          turn.request.header? "content-type" = some written ∧
          Request.namesJson written = false ∧ placeholders written ≠ [] ∧
          ((expand (turn.scope settings) written).outcome sources).1 = .ok type) ∧
      (∀ sent body fault, turn.isSkipped = false → turn.resolved settings = .ok sent →
        sent.body = some body → body ≠ [] → turn.request.isJson = true →
        Json.read body = .error fault →
        turn.call? settings = none ∧ ∃ draft : Report,
          draft.error = some (Problem.document
            ⟨.badJsonBody fault.problem, turn.request.line, body⟩).message ∧
          turn.report settings = .ok (Session.settle turn.request draft)) := by
  refine ⟨(Session.linked_turns records session).calls_eq, fun turn _ => ⟨?_, ?_⟩⟩
  · intro call body type hcall hbody hne hheader hnames
    rcases Turn.isJson_of_call? hcall hheader hnames with hjson | hwritten
    · exact .inl (Turn.exists_json_of_call? hcall hjson hbody hne)
    · exact .inr hwritten
  · intro sent body fault hruns hresolved hbody hne hjson hread
    have hdecoded := hbody ▸ Outcome.decodeBody_of_unreadable hjson hne hread
    have hstage := Turn.stage_of_undecodable hruns hresolved hdecoded
    refine ⟨?_, Turn.report_of_problem ?_⟩
    · rw [Turn.call?, hstage]
    · rw [Turn.fault?, hstage]

/-- A request with a content type and a body. -/
def Request.post (type body : Text) (declared : Table Variable) : Request where
  line := 1
  declared := declared
  directives := []
  method := "POST"
  url := "/"
  headers := [("Content-Type", type)]
  body := some body
  bodyJson := none

/-- A variable makes a body that cannot be read: it is the error of its request. -/
theorem run_sends_json_unreadable :
    ∃ (turn : Turn) (draft : Report),
      turn ∈ (Session.start []).turns ⟨[], 30⟩ [.request (.post "text/json" "\x7b\x7bx\x7d\x7d"
        [("x", ⟨some "[1", false⟩)])] ∧
      turn.call? ⟨[], 30⟩ = none ∧
      draft.error = some "(line: 1) invalid JSON body: Expecting ',' delimiter".toList ∧
      turn.report ⟨[], 30⟩ = .ok (Session.settle turn.request draft) := by
  let request : Request :=
    .post "text/json" "\x7b\x7bx\x7d\x7d" [("x", ⟨some "[1", false⟩)]
  let turn : Turn := ⟨[], false, request, .start []⟩
  obtain ⟨-, hturns⟩ := run_sends_json ⟨[], 30⟩ [.request request] (.start [])
  have hturn : turn ∈ (Session.start []).turns ⟨[], 30⟩ [.request request] := List.mem_cons_self
  obtain ⟨hcall, draft, hdraft, hreport⟩ := (hturns turn hturn).2
    ⟨"POST", "/", [("Content-Type", "text/json")], some "[1"⟩ "[1" ⟨.expectedComma, 2⟩
    rfl rfl rfl (by decide) rfl rfl
  have hmessage : (Problem.document ⟨.badJsonBody .expectedComma, 1, "[1".toList⟩).message =
      "(line: 1) invalid JSON body: Expecting ',' delimiter".toList := by decide
  exact ⟨turn, draft, hturn, hcall, hdraft.trans (congrArg some hmessage), hreport⟩

/-- A document that says by a variable that its body is JSON. -/
def typeByVariable : Text :=
  "@ct=application/json\nPOST http://a\ncontent-type: \x7b\x7bct\x7d\x7d\n\n\x7boops\n"

/-- The body of that document is sent as JSON, though it cannot be read. -/
theorem run_sends_unread_json :
    ∃ records call, Document.read typeByVariable = .ok records ∧
      call ∈ ((Session.start []).run ⟨[], 30⟩ records).2.calls ∧
      findHeader call.headers "content-type" = some "application/json".toList ∧
      Request.namesJson "application/json" = true ∧
      call.body = some "\x7boops".toList ∧ ∀ value, Json.read "\x7boops" ≠ .ok value := by
  have hcheck : (Document.read typeByVariable).toOption.map
      (fun records => ((Session.start []).run ⟨[], 30⟩ records).2.calls.map fun call =>
        (findHeader call.headers "content-type", call.body)) =
      some [(some "application/json".toList, some "\x7boops".toList)] := by
    decide +kernel
  cases hread : Document.read typeByVariable with
  | error fault => rw [hread] at hcheck; exact nomatch hcheck
  | ok records =>
      rw [hread] at hcheck
      obtain ⟨call, rest, hcalls, hcall, -⟩ := List.map_eq_cons_iff.mp (Option.some.inj hcheck)
      obtain ⟨htype, hbody⟩ := Prod.mk.inj hcall
      refine ⟨records, call, rfl, hcalls ▸ List.mem_cons_self, htype, by decide, hbody, ?_⟩
      intro value hvalue
      have hunread : (Json.read "\x7boops").isOk = false := by decide
      rw [hvalue] at hunread
      exact nomatch hunread

end HttpScript
