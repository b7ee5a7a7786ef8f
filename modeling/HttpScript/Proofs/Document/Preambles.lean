import HttpScript.Proofs.Document.Blocks
import HttpScript.Proofs.Document.LineForms
import Mathlib.Data.List.DropRight

/-!
# The lines before a request

The lines that can stand before a request line are blank lines, comments and declarations
(`Line.isPreamble`).  Each of them is entered into the block on its own (`Block.enter`), and the
reader does nothing else with them: it enters one after the other, up to the first line of another
kind or the first directive that makes no sense.

A block ends at a separator, so the lines of the block that is open at some place are those since
the last separator (`openLines`).
-/

namespace HttpScript

namespace Line

/-- The directive on a line, if the line is a comment with a directive in it. -/
def directive? (line : Line) : Option LineForm.Marked :=
  (LineForm.comment? line.content).bind LineForm.directive?

/-- Whether a line can stand before a request line. -/
def isPreamble (line : Line) : Bool :=
  line.isBlank || LineForm.isComment line.content ||
    (LineForm.declaration? line.content).isSome

variable {line : Line}

theorem declaration?_eq_none_of_isComment (hcomment : LineForm.isComment line.content = true) :
    LineForm.declaration? line.content = none := by
  refine LineForm.declaration?_eq_none fun c hc => ?_
  rintro rfl
  obtain ⟨rest, hcontent⟩ := List.head?_eq_some_iff.mp hc
  rw [LineForm.isComment, hcontent, LineForm.comment?_eq_none (by simp)] at hcomment
  cases hcomment

end Line

/-- What a block becomes by a line before its request line. -/
def Block.enter (block : Block) (line : Line) : Except DirectiveProblem Block :=
  match line.directive? with
  | some marked =>
      (block.directives.add marked.name marked.value? marked.isGlobal).map fun directives =>
        { block with directives }
  | none =>
      match LineForm.declaration? line.content with
      | some (marked, value) => .ok
          { block with declared := Table.set block.declared marked.name ⟨value, marked.isGlobal⟩ }
      | none => .ok block

namespace Document

variable {block stopped : Block} {line : Line} {own after : List Line}

/-! ## One line at a time -/

/-- A line that can stand before a request line is entered into the block. -/
theorem readPreamble_cons (hline : line.isPreamble = true) (block : Block) (rest : List Line) :
    readPreamble block (line :: rest) =
      match block.enter line with
      | .ok next => readPreamble next rest
      | .error problem => .error ⟨.directive problem, line.number, line.content⟩ := by
  unfold Block.enter Line.directive?
  by_cases hblank : line.isBlank = true
  · have hcontent : line.content = [] := List.isEmpty_iff.mp hblank
    rw [readPreamble_blank block line hblank, hcontent]
    rfl
  · cases hcomment : LineForm.comment? line.content with
    | some comment =>
        have hisComment : LineForm.isComment line.content = true := by
          rw [LineForm.isComment, hcomment]
          rfl
        rw [Option.bind_some]
        cases hdirective : LineForm.directive? comment with
        | none =>
            rw [readPreamble_comment block line hcomment hdirective,
              Line.declaration?_eq_none_of_isComment hisComment]
        | some marked =>
            dsimp only
            cases hadd : block.directives.add marked.name marked.value? marked.isGlobal with
            | error problem => exact readPreamble_badDirective block line hcomment hdirective hadd
            | ok directives => exact readPreamble_directive block line hcomment hdirective hadd
    | none =>
        obtain ⟨⟨marked, value⟩, hdeclaration⟩ :
            ∃ found, LineForm.declaration? line.content = some found := by
          simpa [Line.isPreamble, LineForm.isComment, hblank, hcomment,
            Option.isSome_iff_exists] using hline
        rw [readPreamble_declaration block line hcomment hdeclaration, Option.bind_none,
          hdeclaration]

/-- At any other line the reader halts. -/
theorem halts_of_isPreamble_eq_false (hline : line.isPreamble = false) (block : Block) :
    Halts block line := by
  simp only [Line.isPreamble, Bool.or_eq_false_iff, LineForm.isComment, Option.isSome_eq_false_iff,
    Option.isNone_iff_eq_none] at hline
  exact fun _ => readPreamble_stop block line hline.1.1 hline.1.2 hline.2

/-- Lines before a request that give no fault are passed, whatever follows them. -/
theorem exists_passes (hown : ∀ line ∈ own, line.isPreamble = true) {result : Block × List Line}
    (hread : readPreamble block (own ++ after) = .ok result) :
    ∃ stopped, Passes block own stopped := by
  induction own generalizing block with
  | nil => exact ⟨block, .nil⟩
  | cons line rest ih =>
      rw [List.forall_mem_cons] at hown
      rw [List.cons_append, readPreamble_cons hown.1] at hread
      cases henter : block.enter line with
      | error problem =>
          rw [henter] at hread
          cases hread
      | ok next =>
          rw [henter] at hread
          obtain ⟨stopped, hpasses⟩ := ih hown.2 hread
          refine ⟨stopped, .cons (fun more => ?_) hpasses⟩
          rw [readPreamble_cons hown.1, henter]

/-! ## The open block -/

/-- The lines since the last separator. -/
def openLines (lines : List Line) : List Line :=
  lines.rtakeWhile fun line => !line.isSeparator

theorem isSeparator_of_mem_openLines {lines : List Line} (hline : line ∈ openLines lines) :
    line.isSeparator = false := by
  have hopen := List.mem_rtakeWhile_imp hline
  rwa [Bool.not_eq_true'] at hopen

/-- There is no separator at all, or the open lines stand behind one. -/
theorem exists_openLines (lines : List Line) :
    openLines lines = lines ∨ ∃ above separator, separator.isSeparator = true ∧
      lines = above ++ separator :: openLines lines := by
  have hlines : lines.rdropWhile (fun line => !line.isSeparator) ++ openLines lines = lines :=
    List.rdropWhile_append_rtakeWhile
  rcases List.eq_nil_or_concat' (lines.rdropWhile fun line => !line.isSeparator) with
    hnil | ⟨above, separator, habove⟩
  · rw [hnil, List.nil_append] at hlines
    exact .inl hlines
  · refine .inr ⟨above, separator, ?_, ?_⟩
    · have hlast := List.rdropWhile_last_not (fun line : Line => !line.isSeparator) lines
        (by rw [habove]; exact List.append_ne_nil_of_right_ne_nil _ (List.cons_ne_nil _ _))
      simp only [habove, List.getLast_append_singleton] at hlast
      simpa using hlast
    · rw [habove, List.append_assoc] at hlines
      exact hlines.symm

end Document

end HttpScript
