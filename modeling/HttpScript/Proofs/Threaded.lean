/-!
# Computations that leave a state behind

The preparation of a command takes notices and the filling of a text uses up sources, and either can
fail on the way.  What was taken or used up until then is left behind in any case, so a computation
comes to a value or a fault together with a state, and of two computations the second one starts from
the state of the first.
-/

namespace HttpScript

/-- A computation that can fail and leaves a state behind whether it does or not. -/
abbrev Threaded (Fault State α : Type) : Type :=
  ExceptT Fault (StateM State) α

namespace Threaded

variable {Fault State α β : Type} {step : Threaded Fault State α}
  {next : α → Threaded Fault State β}

theorem run_bind (step : Threaded Fault State α) (next : α → Threaded Fault State β)
    (state : State) :
    (step >>= next).run.run state =
      match step.run.run state with
      | (.ok value, after) => (next value).run.run after
      | (.error fault, after) => (.error fault, after) := by
  unfold ExceptT.run StateT.run
  simp only [bind, ExceptT.bind, ExceptT.mk, StateT.bind, ExceptT.bindCont]
  rcases step state with ⟨_ | value, after⟩ <;> rfl

theorem exists_of_run_bind_eq_ok {state last : State} {result : β}
    (hrun : (step >>= next).run.run state = (.ok result, last)) :
    ∃ value after, step.run.run state = (.ok value, after) ∧
      (next value).run.run after = (.ok result, last) := by
  rw [run_bind] at hrun
  rcases hstep : step.run.run state with ⟨_ | value, after⟩
  · rw [hstep] at hrun
    exact nomatch hrun
  · rw [hstep] at hrun
    exact ⟨value, after, rfl, hrun⟩

end Threaded

end HttpScript
