import HttpScript.Proofs.Document.Concatenation

/-!
# How far the reader gets

Before a request, the reader passes over blank lines, comments and declarations, and it halts at the
first other line whatever stands behind that one.  So a fault in a single line is found without a
look at the lines that follow, and all that stands before it is read without a fault
(`FailsAtLine`).

A fault in a body is found when the whole body was read.  It lies in the body of a request that the
reader came to (`ComesTo`).
-/

namespace HttpScript.Document

/-! ## Lines that are passed -/

/-- The reader passes over lines with one block and goes on with another, whatever follows. -/
def Passes (block : Block) (before : List Line) (stopped : Block) : Prop :=
  ∀ more, readPreamble block (before ++ more) = readPreamble stopped more

/-- The reader of a block halts at a line, which begins a request or ends the block. -/
def Halts (block : Block) (line : Line) : Prop :=
  ∀ more, readPreamble block (line :: more) = .ok (block, line :: more)

/-- The reader of a block fails at a line, which gives a directive. -/
def Rejects (block : Block) (line : Line) (problem : DirectiveProblem) : Prop :=
  ∀ more, readPreamble block (line :: more) =
    .error ⟨.directive problem, line.number, line.content⟩

namespace Passes

variable {block next stopped : Block} {before : List Line}

theorem nil : Passes block [] block :=
  fun _ => rfl

theorem cons {line : Line}
    (hline : ∀ more, readPreamble block (line :: more) = readPreamble next more)
    (hpasses : Passes next before stopped) : Passes block (line :: before) stopped :=
  fun more => (hline (before ++ more)).trans (hpasses more)

theorem readPreamble_eq (hpasses : Passes block before stopped) :
    readPreamble block before = .ok (stopped, []) := by
  have hend := hpasses []
  rwa [List.append_nil] at hend

end Passes

/-- The reader passes over all lines, or over those up to one at which it halts or fails. -/
def GoesThrough (block : Block) (lines : List Line) : Prop :=
  ∃ before stopped, Passes block before stopped ∧
    (lines = before ∨ ∃ line after, lines = before ++ line :: after ∧
      (Halts stopped line ∨ ∃ problem, Rejects stopped line problem))

theorem GoesThrough.cons {block next : Block} {line : Line} {rest : List Line}
    (hline : ∀ more, readPreamble block (line :: more) = readPreamble next more)
    (hrest : GoesThrough next rest) : GoesThrough block (line :: rest) := by
  obtain ⟨before, stopped, hpasses, rfl | ⟨other, after, rfl, hother⟩⟩ := hrest
  · exact ⟨_, stopped, hpasses.cons hline, .inl rfl⟩
  · exact ⟨_, stopped, hpasses.cons hline, .inr ⟨other, after, rfl, hother⟩⟩

theorem goesThrough (block : Block) (lines : List Line) : GoesThrough block lines := by
  fun_induction readPreamble block lines with
  | case1 block => exact ⟨[], block, .nil, .inl rfl⟩
  | case2 block line rest hblank ih =>
      exact ih.cons fun _ => readPreamble_blank block line hblank
  | case3 block line rest _ comment hcomment hdirective ih =>
      exact ih.cons fun _ => readPreamble_comment block line hcomment hdirective
  | case4 block line rest _ comment hcomment marked hdirective directives hadd ih =>
      exact ih.cons fun _ => readPreamble_directive block line hcomment hdirective hadd
  | case5 block line rest _ comment hcomment marked hdirective problem hadd =>
      exact ⟨[], block, .nil, .inr ⟨line, rest, rfl, .inr ⟨_, fun _ =>
        readPreamble_badDirective block line hcomment hdirective hadd⟩⟩⟩
  | case6 block line rest _ hcomment marked value hdeclaration declared ih =>
      exact ih.cons fun _ => readPreamble_declaration block line hcomment hdeclaration
  | case7 block line rest hblank hcomment hdeclaration =>
      exact ⟨[], block, .nil, .inr ⟨line, rest, rfl, .inl fun _ =>
        readPreamble_stop block line (Bool.not_eq_true _ ▸ hblank) hcomment hdeclaration⟩⟩

theorem exists_of_readPreamble_eq_ok {block stopped : Block} {lines after : List Line}
    {line : Line} (hread : readPreamble block lines = .ok (stopped, line :: after)) :
    ∃ before, lines = before ++ line :: after ∧ Passes block before stopped ∧
      Halts stopped line := by
  obtain ⟨before, last, hpasses, rfl | ⟨other, rest, rfl, hhalts | ⟨problem, hrejects⟩⟩⟩ :=
    goesThrough block lines
  · rw [hpasses.readPreamble_eq] at hread
    exact nomatch (Prod.mk.inj (Except.ok.inj hread)).2
  · rw [hpasses, hhalts] at hread
    obtain ⟨rfl, hleft⟩ := Prod.mk.inj (Except.ok.inj hread)
    obtain ⟨rfl, rfl⟩ := List.cons_eq_cons.mp hleft
    exact ⟨before, rfl, hpasses, hhalts⟩
  · rw [hpasses, hrejects] at hread
    exact nomatch hread

theorem exists_of_readPreamble_eq_error {block : Block} {lines : List Line}
    {fault : DocumentFault} (hread : readPreamble block lines = .error fault) :
    ∃ before stopped line after problem, lines = before ++ line :: after ∧
      Passes block before stopped ∧ Rejects stopped line problem ∧
      fault = ⟨.directive problem, line.number, line.content⟩ := by
  obtain ⟨before, last, hpasses, rfl | ⟨line, after, rfl, hhalts | ⟨problem, hrejects⟩⟩⟩ :=
    goesThrough block lines
  · rw [hpasses.readPreamble_eq] at hread
    exact nomatch hread
  · rw [hpasses, hhalts] at hread
    exact nomatch hread
  · rw [hpasses, hrejects] at hread
    exact ⟨before, last, line, after, problem, rfl, hpasses, hrejects,
      (Except.error.inj hread).symm⟩

/-! ## What a fault comes from -/

/-- The lines of the body of a request, from the lines behind the request line. -/
def bodyLines (rest : List Line) : List Line :=
  (splitBody (readHeaders rest false rest).2).1

theorem eq_error_of_map_eq_error {Found Result : Type} {read : Except DocumentFault Found}
    {f : Found → Result} {fault : DocumentFault} (hmap : read.map f = .error fault) :
    read = .error fault := by
  cases read with
  | error other => exact congrArg Except.error (Except.error.inj hmap)
  | ok found => exact nomatch hmap

theorem decodeBody_eq_error {request : Request} {line : Nat} {fault : DocumentFault}
    (hdecode : decodeBody request line = .error fault) :
    ∃ body stop, request.body = some body ∧ Json.read body = .error stop ∧
      fault = ⟨.badJsonBody stop.problem, line + stop.line body - 1, body⟩ := by
  unfold decodeBody at hdecode
  split at hdecode
  · exact nomatch hdecode
  · next body hbody =>
      split at hdecode
      · split at hdecode
        · exact nomatch hdecode
        · next stop hread => exact ⟨body, stop, hbody, hread, (Except.error.inj hdecode).symm⟩
      · exact nomatch hdecode

theorem readRequest_of_none {block : Block} {line : Line} {rest : List Line}
    (hline : LineForm.requestLine? line.content = none) :
    readRequest block line rest =
      .error ⟨.requestLineExpected line.content, line.number, line.content⟩ := by
  rw [readRequest, hline]

/-- Behind a request line, only a body that is no JSON is at fault. -/
theorem exists_of_readRequest_eq_error {block : Block} {line : Line} {rest : List Line}
    {fault : DocumentFault} (hline : (LineForm.requestLine? line.content).isSome = true)
    (hread : readRequest block line rest = .error fault) :
    ∃ body stop, readBody (bodyLines rest) = some body ∧ Json.read body = .error stop ∧
      fault = ⟨.badJsonBody stop.problem,
        ((bodyLines rest).head?.map Line.number).getD 0 + stop.line body - 1, body⟩ := by
  obtain ⟨found, hfound⟩ := Option.isSome_iff_exists.mp hline
  rw [readRequest, hfound] at hread
  exact decodeBody_eq_error (eq_error_of_map_eq_error hread)

theorem readRecord_eq_error {first : Line} {rest : List Line} {fault : DocumentFault}
    (hread : readRecord first rest = .error fault) :
    readPreamble (Block.start first.number) (first :: rest) = .error fault ∨
      ∃ block line after,
        readPreamble (Block.start first.number) (first :: rest) = .ok (block, line :: after) ∧
          line.isSeparator = false ∧ readRequest block line after = .error fault := by
  match hpreamble : readPreamble (Block.start first.number) (first :: rest) with
  | .error other =>
      obtain rfl := Except.error.inj ((readRecord_fault hpreamble).symm.trans hread)
      exact .inl rfl
  | .ok (block, []) => exact nomatch (readRecord_atEnd hpreamble).symm.trans hread
  | .ok (block, line :: after) =>
      cases hseparator : line.isSeparator with
      | true => exact nomatch (readRecord_atSeparator hpreamble hseparator).symm.trans hread
      | false =>
          rw [readRecord_request hpreamble hseparator] at hread
          exact .inr ⟨block, line, after, rfl, hseparator, eq_error_of_map_eq_error hread⟩

/-! ## Blocks that end at a separator -/

/-- Whatever follows a line, what stands up to it begins with the same line, and the reader goes on
there as before. -/
theorem Passes.exists_others {first line : Line} {rest before after : List Line} {stopped : Block}
    (hpasses : Passes (Block.start first.number) before stopped)
    (hlines : first :: rest = before ++ line :: after) (more : List Line) :
    ∃ others, before ++ line :: more = first :: others ∧
      readPreamble (Block.start first.number) (first :: others) =
        readPreamble stopped (line :: more) := by
  obtain ⟨others, hothers⟩ : ∃ others, before ++ line :: more = first :: others := by
    cases before with
    | nil =>
        obtain ⟨rfl, -⟩ := List.cons_eq_cons.mp hlines
        exact ⟨more, rfl⟩
    | cons other before =>
        obtain ⟨rfl, -⟩ := List.cons_eq_cons.mp hlines
        exact ⟨before ++ line :: more, rfl⟩
  exact ⟨others, hothers, hothers ▸ hpasses (line :: more)⟩

/-- Lines that the reader passes over give no fault. -/
theorem readRecords_of_passes {first : Line} {rest before after : List Line} {stopped : Block}
    (hlines : first :: rest = before ++ after)
    (hpasses : Passes (Block.start first.number) before stopped) :
    (readRecords before).2 = none := by
  cases before with
  | nil => rw [readRecords]
  | cons other before =>
      obtain ⟨rfl, -⟩ := List.cons_eq_cons.mp hlines
      rw [readRecords_cons, readRecord_atEnd hpasses.readPreamble_eq]
      dsimp only
      rw [readRecords]

theorem isSeparator_of_mem_splitBody {lines : List Line} :
    ∀ line ∈ (splitBody lines).2.head?, line.isSeparator = true := by
  intro line hline
  have hstop := List.head?_dropWhile_not (fun line : Line => !line.isSeparator)
    (lines.dropWhile Line.isBlank)
  rw [Option.mem_def, splitBody] at hline
  dsimp only at hline
  rw [hline] at hstop
  exact (Bool.not_eq_false' _).mp hstop

theorem isSeparator_of_readRequest {block : Block} {line : Line} {rest left : List Line}
    {request : Request} (hread : readRequest block line rest = .ok (request, left)) :
    ∀ separator ∈ left.head?, separator.isSeparator = true := by
  unfold readRequest at hread
  cases hline : LineForm.requestLine? line.content with
  | none => rw [hline] at hread; exact nomatch hread
  | some found =>
      rw [hline] at hread
      obtain ⟨decoded, -, hpair⟩ := exists_of_map_eq_ok hread
      obtain ⟨-, rfl⟩ := Prod.mk.inj hpair
      exact isSeparator_of_mem_splitBody

/-- A request that is not the last one ends at a separator, and it is read from the lines up to
there alone. -/
theorem exists_separator_of_readRequest {block : Block} {line separator : Line}
    {rest left : List Line} {request : Request}
    (hread : readRequest block line rest = .ok (request, separator :: left)) :
    ∃ body, rest = body ++ separator :: left ∧ separator.isSeparator = true ∧
      readRequest block line body = .ok (request, []) := by
  obtain ⟨body, rfl⟩ := readRequest_suffix hread
  have hseparator := isSeparator_of_readRequest hread separator rfl
  have happend := readRequest_append hseparator left block line body
  rw [hread] at happend
  obtain ⟨⟨found, remaining⟩, hbody, hpair⟩ := exists_of_map_eq_ok happend.symm
  obtain ⟨rfl, hremaining⟩ := Prod.mk.inj hpair
  obtain rfl := List.append_left_eq_self.mp hremaining
  exact ⟨body, rfl, hseparator, hbody⟩

/-- The lines of a block that is not the last one end at a separator, and they give no fault. -/
theorem exists_separator {first : Line} {rest left : List Line} {record : Option Record}
    (hread : readRecord first rest = .ok (record, left)) (hleft : left ≠ []) :
    ∃ inner separator, first :: rest = inner ++ separator :: left ∧
      separator.isSeparator = true ∧ (readRecords inner).2 = none := by
  obtain ⟨block, after, hpreamble, hread⟩ := readRecord_eq_ok hread
  obtain ⟨-, ⟨-, rfl⟩ | ⟨line, rfl, hseparator⟩⟩ |
    ⟨line, after, request, remaining, rfl, hseparator, hrequest, -, rfl⟩ := hread
  · exact absurd rfl hleft
  · obtain ⟨before, hlines, hpasses, -⟩ := exists_of_readPreamble_eq_ok hpreamble
    exact ⟨before, line, hlines, hseparator, readRecords_of_passes hlines hpasses⟩
  · obtain ⟨before, hlines, hpasses, hhalts⟩ := exists_of_readPreamble_eq_ok hpreamble
    obtain ⟨separator, left, rfl⟩ : ∃ separator left, remaining = separator :: left :=
      List.exists_cons_of_ne_nil fun hnil => hleft (by rw [hnil]; rfl)
    obtain ⟨body, rfl, hend, hbody⟩ := exists_separator_of_readRequest hrequest
    refine ⟨before ++ line :: body, separator, ?_, hend, ?_⟩
    · rw [hlines, List.append_assoc]
      rfl
    · obtain ⟨others, hothers, hinner⟩ := hpasses.exists_others hlines body
      rw [hothers, readRecords_cons,
        readRecord_request (hinner.trans (hhalts body)) hseparator, hbody]
      exact congrArg Prod.snd readRecords.eq_1

/-! ## The first fault -/

/-- A fault in a line: what stands before the line is read without a fault, and the fault is found
whatever stands behind it. -/
structure FailsAtLine (before : List Line) (line : Line) (fault : DocumentFault) : Prop where
  line_eq : fault.line = line.number
  text_eq : fault.text = line.content
  readable : (readRecords before).2 = none
  fails : ∀ more, (readRecords (before ++ line :: more)).2 = some fault

namespace FailsAtLine

variable {before : List Line} {line : Line} {fault : DocumentFault}

/-- A block that cannot be read further than to a line fails at this line. -/
theorem of_readRecord {first : Line} {rest after : List Line} {stopped : Block}
    {problem : DocumentProblem} (hlines : first :: rest = before ++ line :: after)
    (hpasses : Passes (Block.start first.number) before stopped)
    (hread : ∀ others more, readPreamble (Block.start first.number) (first :: others) =
        readPreamble stopped (line :: more) →
      readRecord first others = .error ⟨problem, line.number, line.content⟩) :
    FailsAtLine before line ⟨problem, line.number, line.content⟩ where
  line_eq := rfl
  text_eq := rfl
  readable := readRecords_of_passes hlines hpasses
  fails := by
    intro more
    obtain ⟨others, hothers, hpreamble⟩ := hpasses.exists_others hlines more
    rw [hothers, readRecords_cons, hread others more hpreamble]

/-- A fault behind blocks without faults. -/
theorem append (hfails : FailsAtLine before line fault) {inner : List Line} {separator : Line}
    (hseparator : separator.isSeparator = true) (hinner : (readRecords inner).2 = none) :
    FailsAtLine (inner ++ separator :: before) line fault := by
  have happend (lines : List Line) :
      (readRecords (inner ++ separator :: lines)).2 = (readRecords lines).2 := by
    rw [readRecords_append hseparator]
    rcases hread : readRecords inner with ⟨records, _ | other⟩
    · rfl
    · rw [hread] at hinner
      exact nomatch hinner
  refine ⟨hfails.line_eq, hfails.text_eq, (happend before).trans hfails.readable, fun more => ?_⟩
  rw [List.append_assoc, List.cons_append, happend]
  exact hfails.fails more

end FailsAtLine

/-- The reader comes to a line that should begin a request; `block` is what was declared before. -/
inductive ComesTo : List Line → Block → Line → List Line → Prop
  | here {first rest block line after}
      (hpreamble : readPreamble (Block.start first.number) (first :: rest) =
        .ok (block, line :: after))
      (hseparator : line.isSeparator = false) : ComesTo (first :: rest) block line after
  | later {first rest record left block line after}
      (hread : readRecord first rest = .ok (record, left))
      (hcomes : ComesTo left block line after) : ComesTo (first :: rest) block line after

theorem ComesTo.suffix {lines after : List Line} {block : Block} {line : Line}
    (hcomes : ComesTo lines block line after) : line :: after <:+ lines := by
  induction hcomes with
  | here hpreamble _ => exact readPreamble_suffix hpreamble
  | @later first rest _ left _ _ _ hread _ ih =>
      exact ih.trans ((readRecord_suffix hread).trans (List.suffix_cons first rest))

/-- The first fault of lines is the fault of a single line, or the reader came to a request and the
fault lies behind its request line. -/
theorem exists_of_readRecords {lines : List Line} {fault : DocumentFault}
    (hfault : (readRecords lines).2 = some fault) :
    (∃ before line after, lines = before ++ line :: after ∧ FailsAtLine before line fault ∧
        ∀ problem, fault.problem ≠ .badJsonBody problem) ∨
      ∃ block line rest, ComesTo lines block line rest ∧
        (LineForm.requestLine? line.content).isSome = true ∧
        readRequest block line rest = .error fault := by
  fun_induction readRecords lines with
  | case1 => cases hfault
  | case2 first rest other hread =>
      obtain rfl := Option.some.inj hfault
      rcases readRecord_eq_error hread with
        hpreamble | ⟨block, line, after, hpreamble, hseparator, hrequest⟩
      · obtain ⟨before, stopped, line, after, problem, hlines, hpasses, hrejects, rfl⟩ :=
          exists_of_readPreamble_eq_error hpreamble
        refine .inl ⟨before, line, after, hlines, .of_readRecord hlines hpasses ?_,
          fun _ heq => by cases heq⟩
        intro others more hothers
        exact readRecord_fault (hothers.trans (hrejects more))
      · cases hline : LineForm.requestLine? line.content with
        | none =>
            obtain rfl := Except.error.inj ((readRequest_of_none hline).symm.trans hrequest)
            obtain ⟨before, hlines, hpasses, hhalts⟩ := exists_of_readPreamble_eq_ok hpreamble
            refine .inl ⟨before, line, after, hlines, .of_readRecord hlines hpasses ?_,
          fun _ heq => by cases heq⟩
            intro others more hothers
            rw [readRecord_request (hothers.trans (hhalts more)) hseparator,
              readRequest_of_none hline]
            rfl
        | some found =>
            exact .inr ⟨block, line, after, .here hpreamble hseparator, by rw [hline]; rfl,
              hrequest⟩
  | case3 first rest record left hread _ records other hrecords ih =>
      rw [hrecords] at ih
      rcases ih hfault with ⟨before, line, after, rfl, hfails, hproblem⟩ |
        ⟨block, line, after, hcomes, hrequest⟩
      · obtain ⟨inner, separator, hlines, hseparator, hinner⟩ :=
          exists_separator hread (List.append_ne_nil_of_right_ne_nil _ (List.cons_ne_nil _ _))
        refine .inl ⟨inner ++ separator :: before, line, after, ?_,
          hfails.append hseparator hinner, hproblem⟩
        rw [hlines, List.append_assoc]
        rfl
      · exact .inr ⟨block, line, after, hcomes.later hread, hrequest⟩

end HttpScript.Document
