import HttpScript.Proofs.Threaded
import HttpScript.Setup.Environment

/-!
# Steps of the preparation

No step of the preparation looks at the notices that were taken before it.  So what it comes to does
not hang on them, and the environment of a script is the same whatever was read before it.
-/

namespace HttpScript

namespace Setup

variable {α β : Type}

/-- A step that comes to the same whatever notices were taken before. -/
def IgnoresNotices (step : Setup α) : Prop :=
  ∀ first second, (step.run.run first).1 = (step.run.run second).1

theorem ignoresNotices_pure (value : α) : IgnoresNotices (pure value) :=
  fun _ _ => rfl

theorem ignoresNotices_note (notice : Notice) : IgnoresNotices (note notice) :=
  fun _ _ => rfl

theorem ignoresNotices_fail (problem : SetupProblem) : IgnoresNotices (fail problem : Setup α) :=
  fun _ _ => rfl

theorem ignoresNotices_crash (cause : Crash) : IgnoresNotices (Setup.crash cause : Setup α) :=
  fun _ _ => rfl

theorem IgnoresNotices.bind {step : Setup α} {next : α → Setup β} (hstep : IgnoresNotices step)
    (hnext : ∀ value, IgnoresNotices (next value)) : IgnoresNotices (step >>= next) := by
  intro first second
  have hsame := hstep first second
  rw [Threaded.run_bind, Threaded.run_bind]
  rcases hfirst : step.run.run first with ⟨result, afterFirst⟩
  rcases hsecond : step.run.run second with ⟨other, afterSecond⟩
  rw [hfirst, hsecond] at hsame
  obtain rfl : result = other := hsame
  cases result with
  | error fault => rfl
  | ok value => exact hnext value afterFirst afterSecond

end Setup

namespace Environment

theorem ignoresNotices_loadFile (disk : Disk) (path : Path) :
    (loadFile disk path).IgnoresNotices := by
  unfold loadFile
  split
  · exact Setup.ignoresNotices_crash _
  · exact Setup.ignoresNotices_pure _
  · split
    · exact Setup.ignoresNotices_fail _
    · exact (Setup.ignoresNotices_note _).bind fun _ => Setup.ignoresNotices_pure _
    · exact Setup.ignoresNotices_fail _

theorem ignoresNotices_load (disk : Disk) (directory : Path) (name : Json) :
    (load disk directory name).IgnoresNotices := by
  unfold load loadAll
  split
  · exact Setup.ignoresNotices_pure _
  · refine .bind (.bind (ignoresNotices_loadFile _ _) fun base =>
      .bind (ignoresNotices_loadFile _ _) fun user => Setup.ignoresNotices_pure _) fun found =>
      .bind ?_ fun value => ?_
    · unfold lookUp
      split
      · exact Setup.ignoresNotices_pure _
      · exact Setup.ignoresNotices_crash _
      · exact Setup.ignoresNotices_crash _
      · exact Setup.ignoresNotices_pure _
    · split
      · exact (Setup.ignoresNotices_note _).bind fun _ => Setup.ignoresNotices_pure _
      · exact (Setup.ignoresNotices_note _).bind fun _ => Setup.ignoresNotices_pure _
      · exact Setup.ignoresNotices_pure _
      · exact Setup.ignoresNotices_fail _

end Environment

end HttpScript
