import HttpScript.Proofs.CommandLine.Passes

/-!
# What the command leaves behind

The result of the command is a function of its passes: the status says whether all of them came to
a good end, and what is printed is what is printed of each, or else, on demand, the redacted
outcomes of all of them as one list.  `FilePass.Succeeds` says what a good end is by what is on the
disk and by what a run of the file reports, without the verdict that the command keeps.

The counts below the reports of a file come from two counts and a difference.  Since a report is in
one of four states, the difference counts those of the other two.
-/

namespace HttpScript

variable {plan : Plan} {disk : Disk}

/-! ## Counts and texts -/

/-- Whether a report is counted as failed. -/
def Report.countsAsFailed (report : Report) : Bool :=
  report.state = .failed || report.state = .error

namespace FileResult

theorem countIn_add_countIn (reports : List Report) :
    countIn .passed reports + reports.countP Report.countsAsFailed + countIn .skipped reports =
      reports.length := by
  unfold countIn
  induction reports with
  | nil => rfl
  | cons report rest ih =>
      rw [List.countP_cons, List.countP_cons, List.countP_cons, List.length_cons]
      unfold Report.countsAsFailed at ih ⊢
      cases report.state <;> simp <;> omega

theorem summary_eq (reports : List Report) :
    summary reports =
      Text.ofNat (countIn .passed reports) ++ " passed, " ++
        Text.ofNat (reports.countP Report.countsAsFailed) ++ " failed, " ++
        Text.ofNat (countIn .skipped reports) ++ " skipped\n" := by
  have hfailed : reports.length - countIn .passed reports - countIn .skipped reports =
      reports.countP Report.countsAsFailed := by
    have hadd := countIn_add_countIn reports
    omega
  rw [← hfailed]
  rfl

/-- The text of reports that can all be written: one behind the other, with the counts below. -/
theorem reportsText_eq {verbose : Bool} {all reports : List Report} {text : Text}
    (htext : reportsText verbose all reports = (text, none)) :
    ∃ texts : List Text,
      List.Forall₂ (fun (report : Report) text => report.format verbose = .ok text) reports texts ∧
      text = texts.flatMap onLine ++ onLine (summary all) := by
  induction reports generalizing text with
  | nil => exact ⟨[], .nil, (congrArg Prod.fst htext).symm⟩
  | cons report rest ih =>
      rw [reportsText] at htext
      cases hformat : report.format verbose with
      | error breakdown =>
          rw [hformat] at htext
          exact nomatch htext
      | ok first =>
          rw [hformat] at htext
          rcases hmore : reportsText verbose all rest with ⟨more, breakdown⟩
          rw [hmore] at htext
          dsimp only at htext
          obtain ⟨rfl, rfl⟩ := Prod.mk.inj htext
          obtain ⟨texts, hforall, rfl⟩ := ih hmore
          exact ⟨first :: texts, .cons hformat hforall, by
            rw [List.flatMap_cons, List.append_assoc]⟩

end FileResult

/-! ## A good end -/

namespace FilePass

/-- The reports of the requests of a file. -/
def reports (pass : FilePass) : List Report :=
  match pass.result with
  | .ran reports => reports
  | _ => []

/-- What is printed of a file. -/
def printed (options : Options) (pass : FilePass) : Text :=
  (pass.result.printed options pass.file).1

/-- A file that could be read and that is a document, of which each request, if they are run at all,
did what it should or was left out. -/
def Succeeds (plan : Plan) (disk : Disk) (pass : FilePass) : Prop :=
  ∃ content records, (disk.find pass.file).read = .ok content ∧
    Document.read content = .ok records ∧
    (plan.options.list = false → ∃ env reports,
      plan.environmentOf disk pass.file = .ok env ∧
      (pass.before.renewed.run ⟨env, plan.timeout⟩ records).1 = .ok reports ∧
      ∀ report ∈ reports, report.state = .passed ∨ report.state = .skipped)

end FilePass

theorem Report.ok_iff (report : Report) :
    report.ok = true ↔ report.state = .passed ∨ report.state = .skipped := by
  simp [Report.ok]

theorem Deals.succeeds_iff {pass : FilePass}
    (hdeals : Deals plan disk pass.file pass.before pass.result pass.after) :
    pass.result.ok = true ↔ pass.Succeeds plan disk := by
  obtain ⟨file, before, result, after⟩ := pass
  unfold FilePass.Succeeds
  dsimp only at hdeals ⊢
  cases hdeals with
  | unreadable hread =>
      refine iff_of_false nofun ?_
      rintro ⟨content, records, hother, -⟩
      exact nomatch hread.symm.trans hother
  | malformed hread hdocument =>
      refine iff_of_false nofun ?_
      rintro ⟨content, records, hother, hrecords, -⟩
      obtain rfl := Except.ok.inj (hread.symm.trans hother)
      exact nomatch hdocument.symm.trans hrecords
  | listed hread hdocument hlist =>
      exact iff_of_true rfl ⟨_, _, hread, hdocument,
        fun hrun => nomatch hlist.symm.trans hrun⟩
  | badEnvironment hread hdocument hlist hload =>
      refine iff_of_false nofun ?_
      rintro ⟨content, records, -, -, hruns⟩
      obtain ⟨env, reports, henv, -⟩ := hruns hlist
      exact nomatch hload.symm.trans henv
  | @ran content records env reports _ hread hdocument hlist hload hrun =>
      have hok : FileResult.ok (.ran reports) = true ↔
          ∀ report ∈ reports, report.state = .passed ∨ report.state = .skipped := by
        rw [FileResult.ok, List.all_eq_true]
        exact forall₂_congr fun report _ => report.ok_iff
      rw [hok]
      constructor
      · intro hall
        exact ⟨content, records, hread, hdocument, fun _ => ⟨env, reports, hload,
          congrArg Prod.fst hrun, hall⟩⟩
      · rintro ⟨other, otherRecords, hother, hotherRecords, hruns⟩
        obtain ⟨otherEnv, otherReports, henv, hreports, hall⟩ := hruns hlist
        obtain rfl := Except.ok.inj (hread.symm.trans hother)
        obtain rfl := Except.ok.inj (hdocument.symm.trans hotherRecords)
        obtain rfl := Except.ok.inj (hload.symm.trans henv)
        obtain rfl := Except.ok.inj ((congrArg Prod.fst hrun).symm.trans hreports)
        exact hall

/-! ## What is said of a file that was run -/

namespace FilePass

/-- The text of a file that was run: its name, the reports of its requests, and the counts below
them, by which every request has passed, failed or been left out. -/
def IsSummedUp (disk : Disk) (options : Options) (pass : FilePass) : Prop :=
  ∀ reports, pass.result = .ran reports → ∃ content records texts passed failed skipped,
    (disk.find pass.file).read = .ok content ∧ Document.read content = .ok records ∧
    List.Forall₂ (fun (report : Report) text => report.format options.verbose = .ok text) reports
      texts ∧
    pass.printed options = FileResult.onLine pass.file ++ texts.flatMap FileResult.onLine ++
      FileResult.onLine (Text.ofNat passed ++ " passed, " ++ Text.ofNat failed ++ " failed, " ++
        Text.ofNat skipped ++ " skipped\n") ∧
    passed + failed + skipped = (requestsOf records).length ∧
    passed = reports.countP (fun report => report.state = .passed) ∧
    failed = reports.countP (fun report => report.state = .failed || report.state = .error) ∧
    skipped = reports.countP (fun report => report.state = .skipped)

/-- The requests of a file that was run have their turns in order, and among the outcomes each can
refer to those that earlier requests of the same file were given, and to no others: whatever is
registered before the file is begun, it comes to the same. -/
def IsOnItsOwn (plan : Plan) (disk : Disk) (pass : FilePass) : Prop :=
  ∀ reports, pass.result = .ran reports → ∃ content records env turns,
    (disk.find pass.file).read = .ok content ∧ Document.read content = .ok records ∧
    plan.environmentOf disk pass.file = .ok env ∧
    turns.map Turn.request = requestsOf records ∧
    Linked ⟨env, plan.timeout⟩ pass.before.renewed turns pass.after ∧
    List.Forall₂ (fun (turn : Turn) report => turn.report ⟨env, plan.timeout⟩ = .ok report) turns
      reports ∧
    (∀ earlier turn later, turns = earlier ++ turn :: later →
      (turn.scope ⟨env, plan.timeout⟩).outcomes =
        (Table.setAll [] (earlier.filterMap (Turn.entry? ⟨env, plan.timeout⟩))).map
          fun (name, outcome) => (name, outcome.toJson)) ∧
    ∀ outcomes, Deals plan disk pass.file { pass.before with outcomes } pass.result pass.after

end FilePass

theorem Deals.isOnItsOwn {pass : FilePass}
    (hdeals : Deals plan disk pass.file pass.before pass.result pass.after) :
    pass.IsOnItsOwn plan disk := by
  intro reports hresult
  rw [hresult] at hdeals ⊢
  cases hdeals with
  | @ran content records env _ _ hread hdocument hlist hload hrun =>
      obtain ⟨hrequests, hreports⟩ := Session.turns_of_run (congrArg Prod.fst hrun)
      have hlinked : Linked ⟨env, plan.timeout⟩ pass.before.renewed
          (pass.before.renewed.turns ⟨env, plan.timeout⟩ records)
          (pass.before.renewed.run ⟨env, plan.timeout⟩ records).2 :=
        Session.linked_turns records pass.before.renewed
      rw [hrun] at hlinked
      -- a session is the same when renewed, whatever outcomes were registered in it
      refine ⟨content, records, env, _, hread, hdocument, hload, hrequests, hlinked, hreports, ?_,
        fun outcomes => .ran hread hdocument hlist hload hrun⟩
      intro earlier turn later hsplit
      rw [hsplit] at hlinked
      rw [Turn.scope, Session.scope, hlinked.upTo.1.outcomes_eq]
      rfl

theorem Deals.isSummedUp {pass : FilePass}
    (hdeals : Deals plan disk pass.file pass.before pass.result pass.after)
    (hraw : plan.options.raw = false)
    (hprinted : (pass.result.printed plan.options pass.file).2 = none) :
    pass.IsSummedUp disk plan.options := by
  intro reports hresult
  obtain ⟨content, records, env, turns, hread, hdocument, -, hrequests, -, hreports, -, -⟩ :=
    hdeals.isOnItsOwn reports hresult
  rw [hresult, FileResult.printed, hraw] at hprinted
  rcases htext : FileResult.reportsText plan.options.verbose reports reports with
    ⟨text, breakdown⟩
  rw [htext] at hprinted
  obtain rfl : breakdown = none := hprinted
  obtain ⟨texts, htexts, rfl⟩ := FileResult.reportsText_eq htext
  have hlength : reports.length = (requestsOf records).length := by
    rw [← hrequests, List.length_map, hreports.length_eq]
  refine ⟨content, records, texts, _, _, _, hread, hdocument, htexts, ?_,
    (FileResult.countIn_add_countIn reports).trans hlength, rfl, rfl, rfl⟩
  rw [FilePass.printed, hresult, FileResult.printed, hraw, htext, FileResult.summary_eq]
  exact (List.append_assoc _ _ _).symm

/-- On demand the reports of a file are not printed. -/
theorem Deals.printed_eq_nil {pass : FilePass}
    (hdeals : Deals plan disk pass.file pass.before pass.result pass.after)
    (hraw : plan.options.raw = true) (hlist : plan.options.list = false) :
    pass.printed plan.options = [] := by
  obtain ⟨file, before, result, after⟩ := pass
  unfold FilePass.printed
  cases hdeals with
  | unreadable => rfl
  | malformed => rfl
  | listed _ _ hother => exact nomatch hlist.symm.trans hother
  | badEnvironment => rfl
  | ran => rw [FileResult.printed, hraw, if_pos rfl]

/-! ## From the runs of files to their passes -/

namespace FileRun.AreRunsOf

variable {passes : List FilePass} {runs : List FileRun}

/-- A run of a file has besides what its pass came to nothing but notices. -/
theorem map_eq {Value : Type} (hruns : AreRunsOf passes runs) (ofRun : FileRun → Value)
    (ofPass : FilePass → Value)
    (hsame : ∀ pass notices, ofRun ⟨pass.file, notices, .ok pass.result⟩ = ofPass pass) :
    runs.map ofRun = passes.map ofPass := by
  induction hruns with
  | nil => rfl
  | @cons pass run _ _ hrun _ ih =>
      obtain ⟨hfile, hresult⟩ := hrun
      have heq : run = ⟨pass.file, run.notices, .ok pass.result⟩ := by rw [← hfile, ← hresult]
      rw [List.map_cons, List.map_cons, ih, heq, hsame]

theorem all_ok (hruns : AreRunsOf passes runs) :
    runs.all FileRun.ok = passes.all fun pass => pass.result.ok := by
  have hmap := hruns.map_eq FileRun.ok (fun pass => pass.result.ok) fun _ _ => rfl
  have hall := congrArg (List.all · id) hmap
  rwa [List.all_map, List.all_map] at hall

theorem flatMap_printed (hruns : AreRunsOf passes runs) (options : Options) :
    runs.flatMap (FileRun.printed options) = passes.flatMap (FilePass.printed options) := by
  rw [List.flatMap_def, List.flatMap_def,
    hruns.map_eq (FileRun.printed options) (FilePass.printed options) fun _ _ => rfl]

theorem flatMap_rawOutcomes (hruns : AreRunsOf passes runs) :
    runs.flatMap FileRun.rawOutcomes =
      (passes.flatMap FilePass.reports).filterMap FileResult.rawOutcome? := by
  have hmap := hruns.map_eq FileRun.rawOutcomes
    (fun pass => pass.reports.filterMap FileResult.rawOutcome?) fun pass _ => by
      obtain ⟨file, before, result, after⟩ := pass
      cases result <;> rfl
  rw [List.filterMap_flatMap, List.flatMap_def, List.flatMap_def, hmap]

/-- The reports of a file that does not end the command can all be written. -/
theorem printed_snd (hruns : AreRunsOf passes runs) {options : Options}
    (hends : ∀ run ∈ runs, run.crash? options = none) {pass : FilePass} (hpass : pass ∈ passes) :
    (pass.result.printed options pass.file).2 = none := by
  have hmap := hruns.map_eq (FileRun.crash? options)
    (fun pass => (pass.result.printed options pass.file).2.map Crash.breakdown) fun _ _ => rfl
  have hmem := List.mem_map_of_mem (f := fun pass : FilePass =>
    (pass.result.printed options pass.file).2.map Crash.breakdown) hpass
  rw [← hmap] at hmem
  obtain ⟨run, hrun, hcrash⟩ := List.mem_map.mp hmem
  exact Option.map_eq_none_iff.mp (hcrash.symm.trans (hends run hrun))

end FileRun.AreRunsOf

/-! ## The command -/

/-- The options of a plan are those that it was made from. -/
theorem Command.options_of_prepare {options : Options} {process environ : Table Text}
    {notices : List Notice}
    (hprepare : (prepare options disk process).run.run [] = (.ok (plan, environ), notices)) :
    plan.options = options := by
  unfold prepare at hprepare
  obtain ⟨config, _, -, hrest⟩ := Threaded.exists_of_run_bind_eq_ok hprepare
  obtain ⟨environ, _, -, hrest⟩ := Threaded.exists_of_run_bind_eq_ok hrest
  obtain ⟨environment, _, -, hrest⟩ := Threaded.exists_of_run_bind_eq_ok hrest
  obtain ⟨timeout, _, -, hrest⟩ := Threaded.exists_of_run_bind_eq_ok hrest
  exact (congrArg (fun found => found.1.options) (Except.ok.inj (congrArg Prod.fst hrest))).symm

theorem Command.exists_of_run_eq_finished {arguments : List Text} {process : Table Text}
    {sources : Sources} {transport : Transport} {ok : Bool}
    (hfinished : (run arguments disk process sources transport).ending = .finished ok) :
    ∃ (plan : Plan) (environ : Table Text) (notices : List Notice),
      options disk arguments = .ok plan.options ∧
      (prepare plan.options disk process).run.run [] = (.ok (plan, environ), notices) ∧
      run arguments disk process sources transport =
        runFiles plan disk notices { sources with environ } transport := by
  unfold run at hfinished ⊢
  cases hoptions : Command.options disk arguments with
  | error fault =>
      rw [hoptions] at hfinished
      exact nomatch hfinished
  | ok options =>
      rw [hoptions] at hfinished
      dsimp only at hfinished ⊢
      unfold runOptions at hfinished ⊢
      rcases hprepare : (prepare options disk process).run.run [] with
        ⟨(problem | crash) | ⟨plan, environ⟩, notices⟩
      · rw [hprepare] at hfinished
        exact nomatch hfinished
      · rw [hprepare] at hfinished
        exact nomatch hfinished
      · obtain rfl := options_of_prepare hprepare
        exact ⟨plan, environ, notices, rfl, hprepare, rfl⟩

/-- A command that is not ended on the spot by any file is finished. -/
theorem Command.endingOf_eq_finished {options : Options} {runs : List FileRun} {ok : Bool}
    (hfinished : endingOf options runs = .finished ok) :
    (∀ run ∈ runs, run.crash? options = none) ∧ ok = runs.all FileRun.ok := by
  unfold endingOf at hfinished
  cases hcrash : runs.findSome? (FileRun.crash? options) with
  | some crash =>
      rw [hcrash] at hfinished
      exact nomatch hfinished
  | none =>
      rw [hcrash] at hfinished
      exact ⟨List.findSome?_eq_none_iff.mp hcrash, (Ending.finished.inj hfinished).symm⟩

section Finished

variable {arguments : List Text} {process : Table Text} {sources : Sources} {transport : Transport}
  {ok : Bool}

/-- A command that comes to its end, whose settings could be read and that no file ended on the
spot, has made one pass over each of its files, in order and whatever came of the files before.  Its
status is zero just if every file could be read and is a document and, unless the files are only
listed, the environment of each could be loaded and each of its reports has passed or was left out.
It has printed the reports of the files with the counts below them, or else the redacted outcomes of
all reports that have one, in the order of the files.  No request can refer to the outcomes of
another file. -/
theorem Command.run_finished
    (hfinished : (run arguments disk process sources transport).ending = .finished ok) :
    ∃ (plan : Plan) (environ : Table Text) (notices : List Notice) (passes : List FilePass)
        (last : Session),
      options disk arguments = .ok plan.options ∧
      (prepare plan.options disk process).run.run [] = (.ok (plan, environ), notices) ∧
      FilePasses plan disk
        { outcomes := [], sources := { sources with environ }, transport, calls := [], log := [] }
        passes last ∧
      passes.map FilePass.file = plan.options.files ∧
      (run arguments disk process sources transport).calls = last.calls ∧
      ((run arguments disk process sources transport).ending.status = 0 ↔
        ∀ pass ∈ passes, pass.Succeeds plan disk) ∧
      (plan.options.raw = false →
        (run arguments disk process sources transport).printed =
            passes.flatMap (FilePass.printed plan.options) ∧
          ∀ pass ∈ passes, pass.IsSummedUp disk plan.options) ∧
      (plan.options.raw = true → plan.options.list = false →
        (run arguments disk process sources transport).printed =
          FileResult.onLine ((Json.list ((passes.flatMap FilePass.reports).filterMap fun report =>
            report.redacted.map fun redacted =>
              .object [("title", report.title.toJson), ("state", .str report.state.name),
                ("outcome", redacted)])).writeIndented 0)) ∧
      ∀ pass ∈ passes, pass.IsOnItsOwn plan disk := by
  obtain ⟨plan, environ, notices, hoptions, hprepare, hrun⟩ := exists_of_run_eq_finished hfinished
  rw [hrun] at hfinished ⊢
  let start : Session :=
    { outcomes := [], sources := { sources with environ }, transport, calls := [], log := [] }
  obtain ⟨hends, hok⟩ := endingOf_eq_finished hfinished
  obtain ⟨passes, hpasses, hfiles, hruns⟩ := FileRun.exists_passes plan.options.files start hends
  have hstatus : (Ending.finished ok).status = 0 ↔ ok = true := by cases ok <;> decide
  have hprinted : (runFiles plan disk notices start.sources transport).printed =
      passes.flatMap (FilePass.printed plan.options) ++
        (if plan.options.raw then
          FileResult.onLine ((Json.list ((passes.flatMap FilePass.reports).filterMap
            FileResult.rawOutcome?)).writeIndented 0)
        else []) := by
    rw [← hruns.flatMap_printed, ← hruns.flatMap_rawOutcomes]
    exact congrArg (_ ++ rawText plan.options _ ·) hfinished
  refine ⟨plan, environ, notices, passes, _, hoptions, hprepare, hpasses, hfiles, rfl, ?_, ?_, ?_,
    fun pass hpass => (hpasses.deals hpass).isOnItsOwn⟩
  · rw [hfinished, hstatus, hok, hruns.all_ok, List.all_eq_true]
    exact forall₂_congr fun pass hpass => (hpasses.deals hpass).succeeds_iff
  · intro hraw
    refine ⟨?_, fun pass hpass =>
      (hpasses.deals hpass).isSummedUp hraw (hruns.printed_snd hends hpass)⟩
    rw [hprinted, hraw, if_neg Bool.false_ne_true, List.append_nil]
  · intro hraw hlist
    have hnothing : passes.flatMap (FilePass.printed plan.options) = [] :=
      List.flatMap_eq_nil_iff.mpr fun pass hpass =>
        (hpasses.deals hpass).printed_eq_nil hraw hlist
    rw [hprinted, hraw, if_pos rfl, hnothing, List.nil_append]
    rfl

end Finished

/-- The command goes on after a file that is missing: the request of the other file is sent and
passes, and still the status is not zero. -/
theorem Command.run_finished_missing :
    let disk : Disk := { workplace := [], files := [(["b"], "GET /b")], directories := [] }
    let start := Session.start [200]
    let result := run ["gone", "b"] disk [] start.sources start.transport
    ∃ (plan : Plan) (passes : List FilePass),
      passes.map FilePass.file = ["gone", "b"] ∧
      (¬∀ pass ∈ passes, pass.Succeeds plan disk) ∧ result.ending.status = 1 ∧
      result.calls.map (fun call => call.url) = ["/b"] ∧
      result.printed = passes.flatMap (FilePass.printed plan.options) ∧
      result.printed = "b\nPASS  GET /b  200 (0ms)\n1 passed, 0 failed, 0 skipped\n\n" := by
  intro disk start result
  have hfinished : result.ending = .finished false := by with_unfolding_all rfl
  obtain ⟨plan, environ, notices, passes, last, hoptions, -, -, hfiles, -, hstatus, hplain, -, -⟩ :=
    run_finished hfinished
  have hread : (options disk ["gone", "b"]).map (fun options => (options.files, options.raw)) =
      .ok (["gone", "b"], false) := by decide
  rw [hoptions] at hread
  obtain ⟨hnames, hraw⟩ := Prod.mk.inj (Except.ok.inj hread)
  have hnonzero : result.ending.status = 1 := by rw [hfinished]; rfl
  refine ⟨plan, passes, hfiles.trans hnames, ?_, hnonzero, by decide +kernel, (hplain hraw).1,
    by decide +kernel⟩
  intro hall
  exact nomatch hnonzero.symm.trans (hstatus.mpr hall)

end HttpScript
