import HttpScript.Proofs.Placeholder.Hoisting
import HttpScript.Proofs.Run.History

/-!
# Documents run one after the other

What a run hands on is the session: the outcomes, the sources, the transport and what was called and
logged so far.  Two things are settled anew for each document before its first request is run, the
global variables and whether some request is singled out.  Documents that declare no global variable
and single out no request are alike in both, so running one after the other is running all their
records as one document.
-/

namespace HttpScript

/-- Records that settle nothing for a document as a whole: they declare no global variable and no
request is singled out. -/
structure AreSelfContained (records : List Record) : Prop where
  not_global : ∀ record ∈ records, ∀ name, ¬ record.DeclaresGlobal name
  not_only : ∀ request ∈ requestsOf records, request.directives.isSet "only" = false

namespace AreSelfContained

variable {records first second : List Record}

theorem collectGlobals_eq_nil (hcontained : AreSelfContained records) :
    collectGlobals records = [] := by
  have hnone : ((records.flatMap fun record => record.block.declared).filter fun entry =>
      entry.2.isGlobal) = [] := by
    rw [List.filter_eq_nil_iff]
    rintro ⟨name, declared⟩ hentry hglobal
    obtain ⟨record, hrecord, hdeclared⟩ := List.mem_flatMap.mp hentry
    exact hcontained.not_global record hrecord name ⟨declared, hdeclared, hglobal⟩
  rw [collectGlobals, hnone]
  rfl

theorem isFocused_eq_false (hcontained : AreSelfContained records) : isFocused records = false := by
  rw [isFocused, List.any_eq_false]
  intro request hrequest
  rw [hcontained.not_only request hrequest]
  exact Bool.false_ne_true

theorem append (hfirst : AreSelfContained first) (hsecond : AreSelfContained second) :
    AreSelfContained (first ++ second) where
  not_global := by
    intro record hrecord
    rcases List.mem_append.mp hrecord with hrecord | hrecord
    · exact hfirst.not_global record hrecord
    · exact hsecond.not_global record hrecord
  not_only := by
    intro request hrequest
    rw [requestsOf, List.filterMap_append] at hrequest
    rcases List.mem_append.mp hrequest with hrequest | hrequest
    · exact hfirst.not_only request hrequest
    · exact hsecond.not_only request hrequest

end AreSelfContained

namespace Session

variable (settings : Settings)

/-- Requests that are run in order are run as the first of them and then, on the session they leave,
the others. -/
theorem runAll_append (globals : Table Variable) (focused : Bool) (first second : List Request)
    (session : Session) :
    session.runAll settings globals focused (first ++ second) =
      match session.runAll settings globals focused first with
      | (.error breakdown, middle) => (.error breakdown, middle)
      | (.ok reports, middle) =>
          ((middle.runAll settings globals focused second).1.map (reports ++ ·),
            (middle.runAll settings globals focused second).2) := by
  induction first generalizing session with
  | nil =>
      change session.runAll settings globals focused second =
        ((session.runAll settings globals focused second).1.map id,
          (session.runAll settings globals focused second).2)
      rw [Except.map_id]
      rfl
  | cons request rest ih =>
      rw [List.cons_append]
      cases hreport : (Turn.mk globals focused request session).report settings with
      | error breakdown => rw [runAll_cons_error hreport, runAll_cons_error hreport]
      | ok report =>
          rw [runAll_cons_ok hreport, runAll_cons_ok hreport, ih]
          rcases ((Turn.mk globals focused request session).after settings).runAll settings globals
            focused rest with ⟨breakdown | reports, middle⟩
          · rfl
          · dsimp only [Except.map]
            cases (middle.runAll settings globals focused second).1 <;> rfl

theorem run_of_isSelfContained {records : List Record} (hcontained : AreSelfContained records)
    (session : Session) :
    session.run settings records = session.runAll settings [] false (requestsOf records) := by
  change session.runAll settings (collectGlobals records) (isFocused records) (requestsOf records) =
    _
  rw [hcontained.collectGlobals_eq_nil, hcontained.isFocused_eq_false]

end Session

/-- Two documents that declare no global variable and single out no request.  Running the one and
then the other on the session that it leaves gives the reports of running all records as one
document, and leaves the same session: the same calls in the same order, the same outcomes under
names in the same order, and the same sources.  If the first document breaks down, so does the one
of all records, at the same place. -/
theorem run_append {first second : List Record} (hfirst : AreSelfContained first)
    (hsecond : AreSelfContained second) (settings : Settings) (session : Session) :
    session.run settings (first ++ second) =
      match session.run settings first with
      | (.error breakdown, middle) => (.error breakdown, middle)
      | (.ok reports, middle) =>
          ((middle.run settings second).1.map (reports ++ ·), (middle.run settings second).2) := by
  have hrequests : requestsOf (first ++ second) = requestsOf first ++ requestsOf second :=
    List.filterMap_append
  rw [Session.run_of_isSelfContained settings (hfirst.append hsecond), hrequests,
    Session.runAll_append, Session.run_of_isSelfContained settings hfirst]
  simp only [Session.run_of_isSelfContained settings hsecond]

theorem areSelfContained_get (url : Text) {directives : Directives}
    (honly : directives.isSet "only" = false) :
    AreSelfContained [.request (.get url directives)] where
  not_global := by
    rintro record hrecord name ⟨declared, hdeclared, -⟩
    rw [List.mem_singleton.mp hrecord] at hdeclared
    exact nomatch hdeclared
  not_only := by
    intro request hrequest
    rw [List.mem_singleton.mp hrequest]
    exact honly

/-- The request of the second document refers to the outcome of the one of the first, and both draw
an identifier. -/
theorem run_append_referring :
    let first : List Record :=
      [.request (.get "/\x7b\x7b$guid\x7d\x7d" [("name", ⟨.text "a", false⟩)])]
    let second : List Record :=
      [.request (.get "\x7b\x7ba.request.url\x7d\x7d?\x7b\x7b$guid\x7d\x7d" [])]
    let joined := (Session.start [204]).run ⟨[], 30⟩ (first ++ second)
    AreSelfContained first ∧ AreSelfContained second ∧
      (joined.1.toOption.getD []).map Report.state = [.passed, .passed] ∧
      joined.2.calls.map (fun call => call.url) =
        (["/00000000-0000-4000-8000-000000000001",
          "/00000000-0000-4000-8000-000000000001?00000000-0000-4000-8000-000000000002"] :
          List Text) := by
  intro first second joined
  have hfirst : AreSelfContained first := areSelfContained_get _ rfl
  have hsecond : AreSelfContained second := areSelfContained_get _ rfl
  have hjoined := run_append hfirst hsecond ⟨[], 30⟩ (.start [204])
  refine ⟨hfirst, hsecond, ?_, ?_⟩
  · change (((Session.start [204]).run ⟨[], 30⟩ (first ++ second)).1.toOption.getD []).map
      Report.state = _
    rw [hjoined]
    rfl
  · change ((Session.start [204]).run ⟨[], 30⟩ (first ++ second)).2.calls.map _ = _
    rw [hjoined]
    rfl

end HttpScript
