import HttpScript.Proofs.Run.Registry

/-!
# What a run reports and sends

Which requests are left out, and what the global variables are, is settled by the whole document
before its first request is run.  What a request can refer to among the outcomes, on the other hand,
is what the requests before it left there.  So a run that comes to its end is described request by
request: each has its turn and its report, and its turn makes one call at most.
-/

namespace HttpScript

/-- Whether a request of a document is left out: it says so itself, or others are singled out. -/
def IsLeftOut (records : List Record) (request : Request) : Prop :=
  request.directives.isSet "skip" = true ∨
    (∃ other ∈ requestsOf records, other.directives.isSet "only" = true) ∧
      request.directives.isSet "only" = false

theorem isSkipped_eq_true_iff {records : List Record} {request : Request} :
    Session.isSkipped (isFocused records) request = true ↔ IsLeftOut records request := by
  unfold Session.isSkipped isFocused IsLeftOut
  simp

namespace Linked

variable {settings : Settings} {first last : Session} {turns : List Turn}

/-- The calls of some turns, behind those made before them. -/
theorem calls_eq (hlinked : Linked settings first turns last) :
    last.calls = first.calls ++ turns.filterMap (Turn.call? settings) := by
  induction hlinked with
  | nil => exact (List.append_nil _).symm
  | cons turn _ ih =>
      rw [ih, turn.after_calls, List.append_assoc, List.filterMap_cons]
      cases turn.call? settings <;> rfl

/-- The transport answers these calls, and it is not called beside them. -/
theorem transport_eq (hlinked : Linked settings first turns last) :
    last.transport =
      (turns.filterMap (Turn.call? settings)).foldl (fun transport call => (transport.send call).2)
        first.transport := by
  induction hlinked with
  | nil => rfl
  | cons turn _ ih =>
      rw [ih, turn.after_transport, List.filterMap_cons]
      cases turn.call? settings <;> rfl

end Linked

variable {settings : Settings} {records : List Record} {session : Session} {reports : List Report}

/-- A run that comes to its end has a turn and a report for each request, in order. -/
theorem Session.turns_of_run (hrun : (session.run settings records).1 = .ok reports) :
    (session.turns settings records).map Turn.request = requestsOf records ∧
      List.Forall₂ (fun turn report => turn.report settings = .ok report)
        (session.turns settings records) reports := by
  rcases session.run_cases settings records with ⟨all, hall, hrequests, hreports⟩ |
    ⟨breakdown, _, _, _, _, hbreakdown, -⟩
  · have hsame : all = reports := Except.ok.inj (hall.symm.trans hrun)
    exact ⟨hrequests, hsame ▸ hreports⟩
  · exact nomatch hbreakdown.symm.trans hrun

section Documents

variable {turn : Turn}

theorem Turn.isSkipped_iff_of_mem_turns (hturn : turn ∈ session.turns settings records) :
    turn.isSkipped = true ↔ IsLeftOut records turn.request := by
  unfold Turn.isSkipped
  rw [(Session.globals_of_mem_turnsOf hturn).2]
  exact isSkipped_eq_true_iff

/-- A turn makes a call if its request is not left out, its placeholders are expanded and its body
is decoded. -/
theorem Turn.call?_of_mem_turns (hturn : turn ∈ session.turns settings records) {call : Call} :
    turn.call? settings = some call ↔
      ¬ IsLeftOut records turn.request ∧ ∃ sent sources body,
        (turn.request.resolve (turn.scope settings)).outcome turn.before.sources =
          (.ok sent, sources) ∧
        Outcome.decodeBody turn.request sent.body = .ok body ∧
        call = { sent with timeout := settings.timeout } := by
  rw [turn.call?_eq_some_iff, ← turn.isSkipped_iff_of_mem_turns hturn, Bool.not_eq_true]
  refine and_congr_right fun _ => ⟨?_, ?_⟩
  · rintro ⟨sent, body, hresolved, hdecoded, hcall⟩
    exact ⟨sent, _, body, Prod.ext hresolved rfl, hdecoded, hcall⟩
  · rintro ⟨sent, sources, body, hresolved, hdecoded, hcall⟩
    exact ⟨sent, body, congrArg Prod.fst hresolved, hdecoded, hcall⟩

end Documents

/-- A run that comes to its end has one report for each request, in order, and the request was left
out just if its report says so.  The transport is called for the requests that are not left out,
whose placeholders are expanded and whose bodies are decoded, once for each, in order and with what
the expansion gave.  Placeholders refer to the global variables of the whole document, to the
request's own variables, to the environment and to the outcomes of the requests before it. -/
theorem run_sequential (hrun : (session.run settings records).1 = .ok reports) :
    ∃ turns : List Turn,
      turns.map Turn.request = requestsOf records ∧
      Linked settings session turns (session.run settings records).2 ∧
      List.Forall₂ (fun turn report => turn.report settings = .ok report ∧
        (report.state = .skipped ↔ IsLeftOut records turn.request)) turns reports ∧
      (session.run settings records).2.calls =
        session.calls ++ turns.filterMap (Turn.call? settings) ∧
      (session.run settings records).2.transport =
        (turns.filterMap (Turn.call? settings)).foldl
          (fun transport call => (transport.send call).2) session.transport ∧
      ∀ earlier turn later, turns = earlier ++ turn :: later →
        turn.scope settings =
          { env := settings.env, globals := collectGlobals records
            locals := turn.request.declared
            outcomes :=
              (Table.setAll session.outcomes (earlier.filterMap (Turn.entry? settings))).map
                fun (name, outcome) => (name, outcome.toJson) } ∧
        ∀ call, turn.call? settings = some call ↔
          ¬ IsLeftOut records turn.request ∧ ∃ sent sources body,
            (turn.request.resolve (turn.scope settings)).outcome turn.before.sources =
              (.ok sent, sources) ∧
            Outcome.decodeBody turn.request sent.body = .ok body ∧
            call = { sent with timeout := settings.timeout } := by
  obtain ⟨hrequests, hreports⟩ := Session.turns_of_run hrun
  have hlinked : Linked settings session (session.turns settings records)
      (session.run settings records).2 := Session.linked_turns records session
  refine ⟨session.turns settings records, hrequests, hlinked, ?_, hlinked.calls_eq,
    hlinked.transport_eq, fun earlier turn later hsplit => ?_⟩
  · refine List.forall₂_iff_get.mpr ⟨hreports.length_eq, fun position hturn hreport => ?_⟩
    have hown := hreports.get hturn hreport
    refine ⟨hown, (Turn.state_of_report settings _ hown).trans ?_⟩
    exact Turn.isSkipped_iff_of_mem_turns (List.get_mem _ _)
  · -- only the outcomes depend on the turns before; all else is the same in the whole run
    have hturn : turn ∈ session.turns settings records := by
      rw [hsplit]
      exact List.mem_append_right _ List.mem_cons_self
    refine ⟨?_, fun call => turn.call?_of_mem_turns hturn⟩
    rw [hsplit] at hlinked
    rw [Turn.scope, Session.scope, hlinked.upTo.1.outcomes_eq,
      (Session.globals_of_mem_turnsOf hturn).1]

/-- A document whose second request is singled out: that one is sent and the first one is not. -/
theorem run_sequential_focused :
    ∃ (reports : List Report) (turns : List Turn), ((Session.start [204]).run ⟨[], 30⟩
          [.request (.get "/a" []), .request (.get "/b" [("only", ⟨.flag true, false⟩)])]).1 =
        .ok reports ∧
      reports.map Report.state = [.skipped, .passed] ∧
      turns.map (fun turn => turn.request.url) = ["/a", "/b"] ∧
      turns.filterMap (Turn.call? ⟨[], 30⟩) = [⟨⟨"GET", "/b", [], none⟩, 30⟩] := by
  let run := (Session.start [204]).run ⟨[], 30⟩
    [.request (.get "/a" []), .request (.get "/b" [("only", ⟨.flag true, false⟩)])]
  have hrun : run.1 = .ok (run.1.toOption.getD []) := rfl
  obtain ⟨turns, hrequests, -, -, hcalls, -⟩ := run_sequential hrun
  refine ⟨_, turns, hrun, rfl, ?_, hcalls.symm.trans rfl⟩
  calc turns.map (fun turn => turn.request.url)
      = (turns.map Turn.request).map (fun request => request.url) := List.map_map.symm
    _ = ["/a", "/b"] := by rw [hrequests]; rfl

end HttpScript
