import HttpScript.Proofs.Run.History

/-!
# The table of outcomes

Through runs of any documents on one session the table of outcomes is what arises from entering the
outcomes of the turns, each under the name of its request, in the order of the turns.  So it holds,
under every name, the outcome of the last request of that name that was sent and answered, and a
name that is once in the table stays there.  Whether an outcome is entered is settled before it is
redacted and checked: a turn that fails its expectations, or ends the run, has entered its outcome
all the same.
-/

namespace HttpScript

variable (settings : Settings)

/-- The outcomes of the requests of a name, in the order of their turns. -/
def outcomesNamed (name : Text) (turns : List Turn) : List Outcome :=
  turns.filterMap fun turn =>
    if turn.request.name? = some name then turn.outcome? settings else none

theorem filterMap_entry? (name : Text) (turns : List Turn) :
    ((turns.filterMap (Turn.entry? settings)).filterMap fun entry =>
      if entry.1 = name then some entry.2 else none) = outcomesNamed settings name turns := by
  rw [List.filterMap_filterMap]
  refine List.filterMap_congr fun turn _ => ?_
  unfold Turn.entry?
  cases turn.request.name? with
  | none => simp
  | some other => cases turn.outcome? settings <;> simp

namespace Linked

variable {settings} {first last : Session} {turns : List Turn}

/-- The table after some turns, from the table before them. -/
theorem outcomes_eq (hlinked : Linked settings first turns last) :
    last.outcomes = Table.setAll first.outcomes (turns.filterMap (Turn.entry? settings)) := by
  induction hlinked with
  | nil => rfl
  | cons turn _ ih =>
      rw [ih, turn.after_outcomes, List.filterMap_cons]
      cases turn.entry? settings <;> rfl

theorem get?_outcomes (hlinked : Linked settings first turns last) (name : Text) :
    Table.get? last.outcomes name =
      (outcomesNamed settings name turns).getLast?.or (Table.get? first.outcomes name) := by
  rw [hlinked.outcomes_eq, Table.get?_setAll_eq_getLast?, filterMap_entry?]

end Linked

/-- A turn of a request without a name, or without an outcome, leaves the table as it is. -/
theorem Turn.after_outcomes_eq {turn : Turn}
    (hmissing : turn.request.name? = none ∨ turn.outcome? settings = none) :
    (turn.after settings).outcomes = turn.before.outcomes := by
  rw [turn.after_outcomes, Turn.entry?]
  rcases hmissing with hname | hnone
  · rw [hname]
    rfl
  · rw [hnone]
    cases turn.request.name? <;> rfl

/-- Runs of documents on one session, seen turn by turn.  No name leaves the table, and after each
turn every name stands for the outcome of the last request of that name that was sent and answered,
whatever became of its checks.  A request that has no name, is left out, is not resolved, has a body
that is not decoded or meets an error of the transport leaves the whole table as it was. -/
theorem outcomes_of_history (documents : List (List Record)) (start : Session) :
    Linked settings start (start.history settings documents) (start.runs settings documents) ∧
      ∀ earlier turn later, start.history settings documents = earlier ++ turn :: later →
        Table.names turn.before.outcomes <+: Table.names (turn.after settings).outcomes ∧
        (∀ name, Table.get? (turn.after settings).outcomes name =
          (outcomesNamed settings name (earlier ++ [turn])).getLast?.or
            (Table.get? start.outcomes name)) ∧
        (turn.request.name? = none ∨ turn.isSkipped = true ∨
            (∃ fault, turn.resolved settings = .error fault) ∨
            (∃ sent fault, turn.resolved settings = .ok sent ∧
              Outcome.decodeBody turn.request sent.body = .error fault) ∨
            (∃ sent message, turn.resolved settings = .ok sent ∧
              (turn.reply settings sent).failure? = some message) →
          (turn.after settings).outcomes = turn.before.outcomes) := by
  have hlinked : Linked settings start (start.history settings documents)
      (start.runs settings documents) := Session.linked_history documents start
  refine ⟨hlinked, fun earlier turn later hsplit => ⟨?_, fun name => ?_, fun hmissing => ?_⟩⟩
  · rw [turn.after_outcomes]
    exact Table.names_prefix_setAll _ _
  · rw [hsplit] at hlinked
    exact hlinked.upTo.2.get?_outcomes name
  · exact turn.after_outcomes_eq settings
      (hmissing.imp_right (turn.outcome?_eq_none_iff settings).mpr)

/-- A request of a name, of which a status is expected. -/
def namedRequest (status : Nat) : Request :=
  .get "/" [("name", ⟨.text "a", false⟩), ("status", ⟨.status status none, false⟩)]

/-- The second of two documents has a request of the same name as the first.  The name stands for
its outcome although that is not the one expected, and a request that is left out changes
nothing. -/
theorem outcomes_of_history_renewed :
    ∃ earlier second last,
      (Session.start [201, 404]).history ⟨[], 30⟩
          [[.request (namedRequest 201)],
            [.request (namedRequest 200), .request (.get "/" [("skip", ⟨.flag true, false⟩)])]] =
        earlier ++ [second, last] ∧
      (Table.get? (second.after ⟨[], 30⟩).outcomes "a").map Outcome.status = some 404 ∧
      (last.after ⟨[], 30⟩).outcomes = last.before.outcomes := by
  let first : Turn := ⟨[], false, namedRequest 201, .start [201, 404]⟩
  let second : Turn := ⟨[], false, namedRequest 200, first.after ⟨[], 30⟩⟩
  let last : Turn :=
    ⟨[], false, .get "/" [("skip", ⟨.flag true, false⟩)], second.after ⟨[], 30⟩⟩
  have hturns := (outcomes_of_history ⟨[], 30⟩
    [[.request (namedRequest 201)],
      [.request (namedRequest 200), .request (.get "/" [("skip", ⟨.flag true, false⟩)])]]
    (.start [201, 404])).2
  obtain ⟨-, hsecond, -⟩ := hturns [first] second [last] rfl
  obtain ⟨-, -, hlast⟩ := hturns [first, second] last [] rfl
  refine ⟨[first], second, last, rfl, ?_, hlast (.inr (.inl rfl))⟩
  rw [hsecond "a"]
  rfl

end HttpScript
