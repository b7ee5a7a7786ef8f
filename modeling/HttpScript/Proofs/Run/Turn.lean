import HttpScript.Proofs.Placeholder.Filling
import HttpScript.Proofs.Table
import HttpScript.Run.Session

/-!
# The turn of one request

A run takes the requests of a document in order.  What happens to one of them depends on the session
that the requests before it left: it is left out, or its placeholders are expanded, its body is
decoded, it is sent and it is answered, and each of these steps can be the last one.  How far a turn
comes (`Turn.stage`) determines its report and the session that it leaves.

An outcome is registered before it is redacted and checked, so whether a turn has an outcome does
not depend on what its report says.
-/

namespace HttpScript

/-- The call by which a resolved request is sent. -/
def Settings.call (settings : Settings) (sent : ResolvedRequest) : Call :=
  { sent with timeout := settings.timeout }

/-- The error text of a reply, if it says something. -/
def Reply.failure? (reply : Reply) : Option Text :=
  reply.error.filter fun text => !text.isEmpty

theorem Session.resolve_eq (settings : Settings) (globals : Table Variable) (request : Request)
    (session : Session) :
    session.resolve settings globals request =
      match (request.resolve (session.scope settings globals request)).outcome session.sources with
      | (.ok sent, sources) =>
          (.ok sent, note (.resolved sent.method sent.url) { session with sources })
      | (.error fault, sources) => (.error fault, { session with sources }) := by
  unfold resolve
  generalize request.resolve (session.scope settings globals request) = computation
  have hrun : computation.run session.sources = computation.outcome session.sources := rfl
  rw [hrun]
  rcases computation.outcome session.sources with ⟨_ | sent, sources⟩ <;> rfl

/-- A request, what the run of its document knows of all requests, and the session that the run has
come to. -/
structure Turn where
  globals : Table Variable
  focused : Bool
  request : Request
  before : Session

namespace Turn

variable (settings : Settings) (turn : Turn)

/-- Whether the request is left out. -/
def isSkipped : Bool :=
  Session.isSkipped turn.focused turn.request

/-- What the placeholders of the request can refer to. -/
def scope : Scope :=
  turn.before.scope settings turn.globals turn.request

/-- The request with its placeholders expanded, or what is wrong with them. -/
def resolved : Except Fault ResolvedRequest :=
  ((turn.request.resolve (turn.scope settings)).outcome turn.before.sources).1

/-- What the transport replies when the request is sent. -/
def reply (sent : ResolvedRequest) : Reply :=
  (turn.before.transport.send (settings.call sent)).1

/-! ## How far a turn comes -/

/-- What is found out about a request until its turn comes to its last step. -/
inductive Stage
  | skipped
  | unresolved (fault : Fault)
  | undecodable (sent : ResolvedRequest) (fault : Fault)
  | unanswered (sent : ResolvedRequest) (message : Text)
  | answered (sent : ResolvedRequest) (outcome : Outcome)

/-- The last step that a turn comes to. -/
def stage : Stage :=
  if turn.isSkipped then .skipped
  else match turn.resolved settings with
    | .error fault => .unresolved fault
    | .ok sent => match Outcome.decodeBody turn.request sent.body with
      | .error fault => .undecodable sent fault
      | .ok body => match (turn.reply settings sent).failure? with
        | some message => .unanswered sent message
        | none => .answered sent (Outcome.ofReply sent body (turn.reply settings sent))

/-- The call of the turn, if the request is sent. -/
def call? : Option Call :=
  match turn.stage settings with
  | .unanswered sent _ => some (settings.call sent)
  | .answered sent _ => some (settings.call sent)
  | _ => none

/-- The outcome of the turn, if the request is sent and answered. -/
def outcome? : Option Outcome :=
  match turn.stage settings with
  | .answered _ outcome => some outcome
  | _ => none

/-- The outcome of the turn under the name of its request. -/
def entry? : Option (Text × Outcome) :=
  turn.request.name?.bind fun name => (turn.outcome? settings).map fun outcome => (name, outcome)

/-- What holds of a turn that comes to a last step. -/
inductive Reaches : Stage → Prop
  | skipped (hskipped : turn.isSkipped = true) : Reaches .skipped
  | unresolved {fault : Fault} (hruns : turn.isSkipped = false)
      (hresolved : turn.resolved settings = .error fault) : Reaches (.unresolved fault)
  | undecodable {sent : ResolvedRequest} {fault : Fault} (hruns : turn.isSkipped = false)
      (hresolved : turn.resolved settings = .ok sent)
      (hdecoded : Outcome.decodeBody turn.request sent.body = .error fault) :
      Reaches (.undecodable sent fault)
  | unanswered {sent : ResolvedRequest} {body : Option Json} {message : Text}
      (hruns : turn.isSkipped = false) (hresolved : turn.resolved settings = .ok sent)
      (hdecoded : Outcome.decodeBody turn.request sent.body = .ok body)
      (hfailure : (turn.reply settings sent).failure? = some message) :
      Reaches (.unanswered sent message)
  | answered {sent : ResolvedRequest} {body : Option Json} (hruns : turn.isSkipped = false)
      (hresolved : turn.resolved settings = .ok sent)
      (hdecoded : Outcome.decodeBody turn.request sent.body = .ok body)
      (hfailure : (turn.reply settings sent).failure? = none) :
      Reaches (.answered sent (Outcome.ofReply sent body (turn.reply settings sent)))

theorem reaches_stage : turn.Reaches settings (turn.stage settings) := by
  unfold stage
  cases hskipped : turn.isSkipped with
  | true => exact .skipped hskipped
  | false =>
      rw [if_neg Bool.false_ne_true]
      cases hresolved : turn.resolved settings with
      | error fault => exact .unresolved hskipped hresolved
      | ok sent =>
          dsimp only
          cases hdecoded : Outcome.decodeBody turn.request sent.body with
          | error fault => exact .undecodable hskipped hresolved hdecoded
          | ok body =>
              dsimp only
              cases hfailure : (turn.reply settings sent).failure? with
              | some message => exact .unanswered hskipped hresolved hdecoded hfailure
              | none => exact .answered hskipped hresolved hdecoded hfailure

/-- A request is sent if it is not left out, its placeholders are expanded and its body is
decoded. -/
theorem call?_eq_some_iff {call : Call} :
    turn.call? settings = some call ↔
      turn.isSkipped = false ∧ ∃ sent body, turn.resolved settings = .ok sent ∧
        Outcome.decodeBody turn.request sent.body = .ok body ∧ call = settings.call sent := by
  have hreaches := turn.reaches_stage settings
  unfold call?
  generalize turn.stage settings = stage at hreaches ⊢
  cases hreaches with
  | skipped hskipped =>
      refine ⟨nofun, fun ⟨hruns, _⟩ => ?_⟩
      exact nomatch hskipped.symm.trans hruns
  | unresolved _ hresolved =>
      refine ⟨nofun, fun ⟨_, sent, _, hother, _⟩ => ?_⟩
      exact nomatch hresolved.symm.trans hother
  | undecodable _ hresolved hdecoded =>
      refine ⟨nofun, fun ⟨_, sent, _, hother, hbody, _⟩ => ?_⟩
      obtain rfl := Except.ok.inj (hresolved.symm.trans hother)
      exact nomatch hdecoded.symm.trans hbody
  | unanswered hruns hresolved hdecoded
  | answered hruns hresolved hdecoded =>
      refine ⟨fun hcall => ⟨hruns, _, _, hresolved, hdecoded, (Option.some.inj hcall).symm⟩, ?_⟩
      rintro ⟨-, sent, _, hother, -, rfl⟩
      rw [Except.ok.inj (hresolved.symm.trans hother)]

/-- There is no outcome unless the request is sent and answered. -/
theorem outcome?_eq_none_iff :
    turn.outcome? settings = none ↔
      turn.isSkipped = true ∨ (∃ fault, turn.resolved settings = .error fault) ∨
        (∃ sent fault, turn.resolved settings = .ok sent ∧
          Outcome.decodeBody turn.request sent.body = .error fault) ∨
        ∃ sent message, turn.resolved settings = .ok sent ∧
          (turn.reply settings sent).failure? = some message := by
  have hreaches := turn.reaches_stage settings
  unfold outcome?
  generalize turn.stage settings = stage at hreaches ⊢
  cases hreaches with
  | skipped hskipped => exact iff_of_true rfl (.inl hskipped)
  | unresolved _ hresolved => exact iff_of_true rfl (.inr (.inl ⟨_, hresolved⟩))
  | undecodable _ hresolved hdecoded =>
      exact iff_of_true rfl (.inr (.inr (.inl ⟨_, _, hresolved, hdecoded⟩)))
  | unanswered _ hresolved _ hfailure =>
      exact iff_of_true rfl (.inr (.inr (.inr ⟨_, _, hresolved, hfailure⟩)))
  | answered hruns hresolved hdecoded hfailure =>
      refine iff_of_false nofun ?_
      rintro (hskipped | ⟨fault, hother⟩ | ⟨sent, fault, hother, hbody⟩ |
        ⟨sent, message, hother, hreply⟩)
      · exact nomatch hskipped.symm.trans hruns
      · exact nomatch hresolved.symm.trans hother
      · obtain rfl := Except.ok.inj (hresolved.symm.trans hother)
        exact nomatch hdecoded.symm.trans hbody
      · obtain rfl := Except.ok.inj (hresolved.symm.trans hother)
        exact nomatch hfailure.symm.trans hreply

theorem outcome?_of_answered {settings : Settings} {turn : Turn} {sent : ResolvedRequest}
    {body : Option Json} (hruns : turn.isSkipped = false)
    (hresolved : turn.resolved settings = .ok sent)
    (hdecoded : Outcome.decodeBody turn.request sent.body = .ok body)
    (hfailure : (turn.reply settings sent).failure? = none) :
    turn.outcome? settings = some (Outcome.ofReply sent body (turn.reply settings sent)) := by
  rw [outcome?, stage, hruns, if_neg Bool.false_ne_true, hresolved]
  dsimp only
  rw [hdecoded]
  dsimp only
  rw [hfailure]

/-- An outcome records the body of the request as it was decoded. -/
theorem exists_of_outcome? {settings : Settings} {turn : Turn} {recorded : Outcome}
    (hrecorded : turn.outcome? settings = some recorded) :
    ∃ sent, turn.resolved settings = .ok sent ∧
      Outcome.decodeBody turn.request sent.body = .ok recorded.body := by
  have hreaches := turn.reaches_stage settings
  unfold outcome? at hrecorded
  generalize turn.stage settings = stage at hreaches hrecorded
  cases hreaches with
  | skipped | unresolved | undecodable | unanswered => cases hrecorded
  | @answered sent body _ hresolved hdecoded _ =>
      obtain rfl := Option.some.inj hrecorded
      exact ⟨sent, hresolved, hdecoded⟩

/-! ## What a run does in a turn -/

/-- Leaves the request out or runs it. -/
def run : Except Breakdown Report × Session :=
  if turn.isSkipped then
    (.ok (Session.skippedReport turn.request),
      turn.before.note (.skipped (Session.title turn.request turn.request.url)))
  else turn.before.runRequest settings turn.globals turn.request

/-- The report of the turn, or what ends the run. -/
def report : Except Breakdown Report :=
  (turn.run settings).1

/-- The session that the turn leaves. -/
def after : Session :=
  (turn.run settings).2

/-- The report of the request before anything is known of it but its address. -/
def draft (url : Text) : Report :=
  Session.blank (Session.title turn.request url) .passed

/-- The address of a resolved request; an empty one is not shown. -/
def address (sent : ResolvedRequest) : Text :=
  if sent.url.isEmpty then turn.request.url else sent.url

/-- The session when the placeholders are expanded, as far as that went. -/
def afterResolving : Session :=
  (turn.before.resolve settings turn.globals turn.request).2

/-- The session when the transport has replied. -/
def afterSending (sent : ResolvedRequest) : Session :=
  { turn.afterResolving settings with
    transport := (turn.before.transport.send (settings.call sent)).2
    calls := turn.before.calls ++ [settings.call sent] }

theorem resolve_fst :
    (turn.before.resolve settings turn.globals turn.request).1 = turn.resolved settings := by
  rw [Session.resolve_eq]
  unfold resolved scope
  rcases (turn.request.resolve (turn.before.scope settings turn.globals turn.request)).outcome
    turn.before.sources with ⟨_ | sent, sources⟩ <;> rfl

/-- Expanding placeholders uses up sources and does nothing else to a session but for its log. -/
theorem afterResolving_eq : ∃ sources log,
    turn.afterResolving settings = { turn.before with sources, log } := by
  unfold afterResolving
  rw [Session.resolve_eq]
  rcases (turn.request.resolve (turn.before.scope settings turn.globals turn.request)).outcome
    turn.before.sources with ⟨_ | sent, sources⟩
  · exact ⟨sources, turn.before.log, rfl⟩
  · exact ⟨sources, _, rfl⟩

theorem resolve_eq :
    turn.before.resolve settings turn.globals turn.request =
      (turn.resolved settings, turn.afterResolving settings) :=
  Prod.ext (turn.resolve_fst settings) rfl

theorem execute_eq (sent : ResolvedRequest) (body : Option Json) :
    (turn.afterResolving settings).execute settings turn.request sent body =
      match (turn.reply settings sent).failure? with
      | some message => (.error (.problem (.transport message)), turn.afterSending settings sent)
      | none =>
          let outcome := Outcome.ofReply sent body (turn.reply settings sent)
          (.ok outcome, (turn.afterSending settings sent).register turn.request outcome) := by
  obtain ⟨sources, log, hafter⟩ := turn.afterResolving_eq settings
  unfold Session.execute afterSending reply Reply.failure? Settings.call
  rewrite [hafter]
  rfl

/-- What a run does in a turn, from the last step that the turn comes to. -/
theorem run_eq : turn.run settings =
    match turn.stage settings with
    | .skipped => (.ok (Session.skippedReport turn.request),
        turn.before.note (.skipped (Session.title turn.request turn.request.url)))
    | .unresolved fault =>
        ((Session.withFault (turn.draft turn.request.url) fault).map (Session.settle turn.request),
          turn.afterResolving settings)
    | .undecodable sent fault =>
        ((Session.withFault (turn.draft (turn.address sent)) fault).map
          (Session.settle turn.request), turn.afterResolving settings)
    | .unanswered sent message =>
        ((Session.withFault (turn.draft (turn.address sent)) (.problem (.transport message))).map
          (Session.settle turn.request), turn.afterSending settings sent)
    | .answered sent outcome =>
        ((Session.judge turn.request (turn.draft (turn.address sent)) outcome).map
          (Session.settle turn.request),
          (turn.afterSending settings sent).register turn.request outcome) := by
  unfold run stage
  cases turn.isSkipped with
  | true => rfl
  | false =>
      rw [if_neg Bool.false_ne_true, if_neg Bool.false_ne_true]
      unfold Session.runRequest Session.attempt
      rw [resolve_eq]
      cases turn.resolved settings with
      | error fault => rfl
      | ok sent =>
          dsimp only
          cases Outcome.decodeBody turn.request sent.body with
          | error fault => rfl
          | ok body =>
              dsimp only
              rw [execute_eq]
              cases (turn.reply settings sent).failure? <;> rfl

/-! ## What a turn leaves -/

theorem register_eq (request : Request) (outcome : Outcome) (session : Session) :
    ∃ log, session.register request outcome =
      { session with
        outcomes := Table.setAll session.outcomes
          (request.name?.map fun name => (name, outcome)).toList
        log } := by
  unfold Session.register
  cases request.name? with
  | none => exact ⟨session.log, rfl⟩
  | some name => exact ⟨_, rfl⟩

/-- A turn leaves the transport as the call leaves it, if there is one, and enters the outcome, if
there is one and the request has a name. -/
theorem after_eq : ∃ sources log, turn.after settings =
    { outcomes := Table.setAll turn.before.outcomes (turn.entry? settings).toList
      sources
      transport := (turn.call? settings).elim turn.before.transport fun call =>
        (turn.before.transport.send call).2
      calls := turn.before.calls ++ (turn.call? settings).toList
      log } := by
  obtain ⟨sources, log, hresolving⟩ := turn.afterResolving_eq settings
  rw [after, run_eq, entry?, outcome?, call?]
  cases turn.stage settings with
  | skipped =>
      refine ⟨turn.before.sources,
        turn.before.log ++ [.skipped (Session.title turn.request turn.request.url)], ?_⟩
      simp [Session.note, Table.setAll]
  | unresolved fault =>
      refine ⟨sources, log, ?_⟩
      simp [hresolving, Table.setAll]
  | undecodable sent fault =>
      refine ⟨sources, log, ?_⟩
      simp [hresolving, Table.setAll]
  | unanswered sent message =>
      refine ⟨sources, log, ?_⟩
      simp [afterSending, hresolving, Table.setAll]
  | answered sent outcome =>
      obtain ⟨log, hregister⟩ :=
        register_eq turn.request outcome (turn.afterSending settings sent)
      refine ⟨sources, log, ?_⟩
      dsimp only
      rw [hregister]
      cases hname : turn.request.name? <;> simp [afterSending, hresolving]

theorem after_calls :
    (turn.after settings).calls = turn.before.calls ++ (turn.call? settings).toList := by
  obtain ⟨sources, log, hafter⟩ := turn.after_eq settings
  rw [hafter]

theorem after_outcomes :
    (turn.after settings).outcomes =
      Table.setAll turn.before.outcomes (turn.entry? settings).toList := by
  obtain ⟨sources, log, hafter⟩ := turn.after_eq settings
  rw [hafter]

theorem after_transport :
    (turn.after settings).transport =
      (turn.call? settings).elim turn.before.transport fun call =>
        (turn.before.transport.send call).2 := by
  obtain ⟨sources, log, hafter⟩ := turn.after_eq settings
  rw [hafter]

/-! ## The state of a report -/

theorem settlePlain_state (report : Report) : (Session.settlePlain report).state ≠ .skipped := by
  change (if report.error.isSome then RunState.error
    else if report.failures.isEmpty then .passed else .failed) ≠ .skipped
  split
  · exact nofun
  · split <;> exact nofun

theorem settleThrowing_state (pattern : Option Text) (report : Report) :
    (Session.settleThrowing pattern report).state ≠ .skipped := by
  unfold Session.settleThrowing
  dsimp only
  split
  · exact nofun
  · cases pattern with
    | none => exact nofun
    | some text =>
        dsimp only
        split <;> exact nofun

theorem settle_state (request : Request) (report : Report) :
    (Session.settle request report).state ≠ .skipped := by
  unfold Session.settle
  split
  · exact settleThrowing_state _ _
  · exact settleThrowing_state _ _
  · exact settlePlain_state _

/-- A report says that its request was left out just when it was. -/
theorem state_of_report {report : Report} (hreport : turn.report settings = .ok report) :
    report.state = .skipped ↔ turn.isSkipped = true := by
  unfold Turn.report run at hreport
  cases hskipped : turn.isSkipped with
  | true =>
      rw [hskipped, if_pos rfl] at hreport
      rw [← Except.ok.inj hreport]
      exact iff_of_true rfl rfl
  | false =>
      rw [hskipped, if_neg Bool.false_ne_true, Session.runRequest] at hreport
      rcases hattempt : turn.before.attempt settings turn.globals turn.request with
        ⟨breakdown | draft, after⟩
      · rw [hattempt] at hreport
        exact nomatch hreport
      · rw [hattempt] at hreport
        rw [← Except.ok.inj hreport]
        exact iff_of_false (settle_state turn.request draft) Bool.false_ne_true

end Turn

end HttpScript
