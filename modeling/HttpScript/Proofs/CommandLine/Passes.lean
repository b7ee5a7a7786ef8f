import HttpScript.CommandLine.Command
import HttpScript.Proofs.Run.Sequence
import HttpScript.Proofs.Setup.Notices

/-!
# One pass over each file

The command makes one pass over each of its files.  What a pass comes to is said by `Deals`, with
one rule for each end that a pass can have, and `FilePasses` links them: each begins in the session
that the one before it left.  Whatever a pass comes to, the next file has its pass, unless the
command ends on the spot.

A file is run in a session of its own as far as outcomes are concerned (`Session.renewed`).  The
sources and the transport go on from file to file, so replies and draws are used up in order.
-/

namespace HttpScript

/-- The environment that the requests of a file see. -/
def Plan.environmentOf (plan : Plan) (disk : Disk) (file : Text) :
    Except SetupFault (Table Text) :=
  ((Environment.load disk ((Path.ofText file).resolve disk.workplace).parent
    plan.environment).run.run []).1

/-- The same session without what was registered and logged. -/
def Session.renewed (session : Session) : Session :=
  { session with outcomes := [], log := [] }

/-- What a pass over a file comes to, and the session that it leaves. -/
inductive Deals (plan : Plan) (disk : Disk) (file : Text) (before : Session) :
    FileResult → Session → Prop
  | unreadable {fault : AccessFault} (hread : (disk.find file).read = .error fault) :
      Deals plan disk file before (.unreadable fault) before
  | malformed {content : Text} {fault : DocumentFault} (hread : (disk.find file).read = .ok content)
      (hdocument : Document.read content = .error fault) :
      Deals plan disk file before (.malformed fault) before
  | listed {content : Text} {records : List Record} (hread : (disk.find file).read = .ok content)
      (hdocument : Document.read content = .ok records) (hlist : plan.options.list = true) :
      Deals plan disk file before (.listed records) before
  | badEnvironment {content : Text} {records : List Record} {problem : SetupProblem}
      (hread : (disk.find file).read = .ok content)
      (hdocument : Document.read content = .ok records) (hlist : plan.options.list = false)
      (hload : plan.environmentOf disk file = .error (.problem problem)) :
      Deals plan disk file before (.badEnvironment problem) before
  | ran {content : Text} {records : List Record} {env : Table Text} {reports : List Report}
      {after : Session} (hread : (disk.find file).read = .ok content)
      (hdocument : Document.read content = .ok records) (hlist : plan.options.list = false)
      (hload : plan.environmentOf disk file = .ok env)
      (hrun : before.renewed.run ⟨env, plan.timeout⟩ records = (.ok reports, after)) :
      Deals plan disk file before (.ran reports) after

/-- A pass over a file: the session that it begins in, what it comes to, and the session that it
leaves. -/
structure FilePass where
  file : Text
  before : Session
  result : FileResult
  after : Session

/-- Passes over files, each begun in the session that the one before it left. -/
inductive FilePasses (plan : Plan) (disk : Disk) : Session → List FilePass → Session → Prop
  | nil {session : Session} : FilePasses plan disk session [] session
  | cons (pass : FilePass) {rest : List FilePass} {last : Session}
      (hdeals : Deals plan disk pass.file pass.before pass.result pass.after)
      (hrest : FilePasses plan disk pass.after rest last) :
      FilePasses plan disk pass.before (pass :: rest) last

variable {plan : Plan} {disk : Disk} {file : Text} {session : Session} {result : FileResult}

theorem FilePasses.deals {first last : Session} {passes : List FilePass}
    (hpasses : FilePasses plan disk first passes last) {pass : FilePass} (hpass : pass ∈ passes) :
    Deals plan disk pass.file pass.before pass.result pass.after := by
  induction hpasses with
  | nil => exact nomatch hpass
  | cons _ hdeals _ ih =>
      rcases List.mem_cons.mp hpass with rfl | hrest
      · exact hdeals
      · exact ih hrest

/-! ## The pass over one file -/

namespace FileRun

/-- A file that is run is dealt with by the rules, or ends the command. -/
theorem runRecords_cases {content : Text} {records : List Record}
    (hread : (disk.find file).read = .ok content)
    (hdocument : Document.read content = .ok records) (hlist : plan.options.list = false)
    (notices : List Notice) :
    (∃ result taken after, Deals plan disk file session result after ∧
        runRecords plan disk file records notices session = (⟨file, taken, .ok result⟩, after)) ∨
      ∃ crash taken after, runRecords plan disk file records notices session =
        (⟨file, taken, .error crash⟩, after) := by
  have hload : ((Environment.load disk ((Path.ofText file).resolve disk.workplace).parent
      plan.environment).run.run notices).1 = plan.environmentOf disk file :=
    Environment.ignoresNotices_load _ _ _ notices []
  unfold runRecords
  dsimp only
  rcases hsetup : (Environment.load disk ((Path.ofText file).resolve disk.workplace).parent
    plan.environment).run.run notices with ⟨(problem | crash) | env, taken⟩
  · rw [hsetup] at hload
    exact .inl ⟨_, taken, session, .badEnvironment hread hdocument hlist hload.symm, rfl⟩
  · exact .inr ⟨crash, taken, session, rfl⟩
  · rw [hsetup] at hload
    dsimp only
    rcases hrun : session.renewed.run ⟨env, plan.timeout⟩ records with ⟨breakdown | reports, after⟩
    · refine .inr ⟨.breakdown breakdown, taken ++ after.log.map Notice.requestRun, after, ?_⟩
      unfold Session.renewed at hrun
      rw [hrun]
    · refine .inl ⟨_, taken ++ after.log.map Notice.requestRun, after,
        .ran hread hdocument hlist hload.symm hrun, ?_⟩
      unfold Session.renewed at hrun
      rw [hrun]

/-- A file is dealt with by the rules, or ends the command. -/
theorem ofFile_cases (plan : Plan) (disk : Disk) (file : Text) (session : Session) :
    (∃ result taken after, Deals plan disk file session result after ∧
        ofFile plan disk file session = (⟨file, taken, .ok result⟩, after)) ∨
      ∃ crash taken after,
        ofFile plan disk file session = (⟨file, taken, .error crash⟩, after) := by
  unfold ofFile
  cases hread : (disk.find file).read with
  | error fault => exact .inl ⟨_, [], session, .unreadable hread, rfl⟩
  | ok content =>
      dsimp only
      rcases hdocument : Document.readUpToFault content with ⟨records, _ | fault⟩
      · have hrecords : Document.read content = .ok records := by rw [Document.read, hdocument]
        dsimp only
        cases hlist : plan.options.list with
        | true => exact .inl ⟨_, _, session, .listed hread hrecords hlist, rfl⟩
        | false => exact runRecords_cases hread hrecords hlist _
      · have hfault : Document.read content = .error fault := by rw [Document.read, hdocument]
        dsimp only
        cases fault.isReported with
        | true => exact .inl ⟨_, _, session, .malformed hread hfault, rfl⟩
        | false => exact .inr ⟨_, _, session, rfl⟩

/-! ## The passes over all files -/

/-- Runs of files that came to what passes came to. -/
def AreRunsOf (passes : List FilePass) (runs : List FileRun) : Prop :=
  List.Forall₂ (fun pass run => run.file = pass.file ∧ run.result = .ok pass.result) passes runs

theorem ofFiles_cons (plan : Plan) (disk : Disk) (file : Text) (rest : List Text)
    (session : Session) :
    ofFiles plan disk (file :: rest) session =
      let (run, after) := ofFile plan disk file session
      if (run.crash? plan.options).isSome then ([run], after)
      else (run :: (ofFiles plan disk rest after).1, (ofFiles plan disk rest after).2) :=
  rfl

/-- Files of which none ends the command have a pass each, in order. -/
theorem exists_passes (files : List Text) (session : Session)
    (hends : ∀ run ∈ (ofFiles plan disk files session).1, run.crash? plan.options = none) :
    ∃ passes, FilePasses plan disk session passes (ofFiles plan disk files session).2 ∧
      passes.map FilePass.file = files ∧
      AreRunsOf passes (ofFiles plan disk files session).1 := by
  induction files generalizing session with
  | nil => exact ⟨[], .nil, rfl, .nil⟩
  | cons file rest ih =>
      rw [ofFiles_cons] at hends ⊢
      -- a file that comes to a result can still end the command, when its reports are printed
      rcases ofFile_cases plan disk file session with
        ⟨result, taken, after, hdeals, hfile⟩ | ⟨crash, taken, after, hfile⟩
      · rw [hfile] at hends ⊢
        dsimp only at hends ⊢
        cases hcrash : FileRun.crash? plan.options ⟨file, taken, .ok result⟩ with
        | some crash =>
            rw [hcrash] at hends
            exact nomatch hcrash.symm.trans (hends _ (List.mem_singleton_self _))
        | none =>
            simp only [hcrash, Option.isSome_none, Bool.false_eq_true, if_false] at hends ⊢
            obtain ⟨passes, hpasses, hfiles, hruns⟩ :=
              ih after fun run hrun => hends run (List.mem_cons_of_mem _ hrun)
            exact ⟨_, .cons ⟨file, session, result, after⟩ hdeals hpasses,
              congrArg (file :: ·) hfiles, .cons ⟨rfl, rfl⟩ hruns⟩
      · rw [hfile] at hends
        exact nomatch hends ⟨file, taken, .error crash⟩ (List.mem_singleton_self _)

end FileRun

end HttpScript
