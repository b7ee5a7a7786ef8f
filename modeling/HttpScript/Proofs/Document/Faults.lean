import HttpScript.Proofs.Document.Blocks
import HttpScript.Proofs.Document.WellFormed

/-!
# Where a fault lies

Every fault is reported with the number of a line of the document.

The fault of a single line comes with the trimmed line itself, and it is the first one: the lines
above it are read without a fault, and the lines below it are never looked at.

A body that is no JSON is reported as a whole, trimmed, with the line at which decoding stopped.
Decoding counts the lines of the trimmed text from its first one.  Trimming takes away whole lines
only where they are blank, so this is the first line of the body that is not blank, and no more
lines can be counted than there are up to the last one that is not blank.
-/

namespace HttpScript

/-! ## Numbers of lines -/

namespace Line

theorem number_of_mem_head?_numberFrom {number : Nat} {raws : List Text} :
    ∀ first ∈ (numberFrom number raws).head?, first.number = number := by
  intro first hfirst
  cases raws with
  | nil => exact nomatch hfirst
  | cons raw rest => exact congrArg Line.number (Option.some.inj hfirst).symm

theorem number_of_mem_numberFrom {number : Nat} {raws : List Text} {line : Line}
    (hline : line ∈ numberFrom number raws) :
    number ≤ line.number ∧ line.number < number + raws.length := by
  induction raws generalizing number with
  | nil => exact nomatch hline
  | cons raw rest ih =>
      rw [List.length_cons]
      rcases List.mem_cons.mp hline with rfl | hline
      · exact ⟨Nat.le_refl number, by dsimp only; omega⟩
      · have hbounds := ih hline
        omega

/-- The number of a line, from how many lines stand before it. -/
theorem number_of_numberFrom_eq_append {number : Nat} {raws : List Text} {before after : List Line}
    {line : Line} (hlines : numberFrom number raws = before ++ line :: after) :
    line.number = number + before.length := by
  induction before generalizing number raws with
  | nil =>
      cases raws with
      | nil => exact nomatch hlines
      | cons raw rest =>
          obtain ⟨rfl, -⟩ := List.cons_eq_cons.mp hlines
          rfl
  | cons other before ih =>
      cases raws with
      | nil => exact nomatch hlines
      | cons raw rest =>
          rw [ih (List.cons_eq_cons.mp hlines).2, List.length_cons]
          omega

theorem number_le_of_numberFrom_eq_append {number : Nat} {raws : List Text}
    {before after : List Line} {line other : Line}
    (hlines : numberFrom number raws = before ++ line :: after) (hother : other ∈ before) :
    other.number ≤ line.number := by
  have hline := number_of_numberFrom_eq_append hlines
  obtain ⟨above, between, rfl⟩ := List.append_of_mem hother
  rw [List.append_assoc, List.cons_append] at hlines
  rw [number_of_numberFrom_eq_append hlines, hline, List.length_append]
  omega

theorem exists_of_numberFrom_eq_append {number : Nat} {raws : List Text} {before after : List Line}
    (hlines : numberFrom number raws = before ++ after) :
    ∃ first second, raws = first ++ second ∧ before = numberFrom number first ∧
      after = numberFrom (number + first.length) second := by
  induction before generalizing number raws with
  | nil => exact ⟨[], raws, rfl, rfl, hlines.symm⟩
  | cons line before ih =>
      cases raws with
      | nil => exact nomatch hlines
      | cons raw rest =>
          obtain ⟨rfl, hrest⟩ := List.cons_eq_cons.mp hlines
          obtain ⟨first, second, rfl, rfl, rfl⟩ := ih hrest
          refine ⟨raw :: first, second, rfl, rfl, ?_⟩
          rw [List.length_cons, Nat.add_right_comm, Nat.add_assoc]

/-- Lines next to each other are numbered from some number on. -/
theorem exists_of_isInfix_numberFrom {number : Nat} {raws : List Text} {lines : List Line}
    (hlines : lines <:+: numberFrom number raws) :
    ∃ start part, part <:+: raws ∧ lines = numberFrom start part := by
  obtain ⟨before, after, hall⟩ := hlines
  obtain ⟨first, last, rfl, hfirst, -⟩ := exists_of_numberFrom_eq_append hall.symm
  obtain ⟨above, part, rfl, -, rfl⟩ := exists_of_numberFrom_eq_append hfirst.symm
  exact ⟨_, part, ⟨above, last, rfl⟩, rfl⟩

end Line

/-! ## Joined lines -/

namespace Text

theorem IsOneLine.count_eq {text : Text} (honeLine : IsOneLine text) : text.count '\n' = 0 :=
  List.count_eq_zero.mpr fun hmem => (honeLine '\n' hmem).2 rfl

/-- Joined lines have one break less than there are lines. -/
theorem count_join {parts : List Text} (hnil : parts ≠ [])
    (honeLine : ∀ part ∈ parts, IsOneLine part) :
    (join ['\n'] parts).count '\n' + 1 = parts.length := by
  induction parts with
  | nil => exact absurd rfl hnil
  | cons first rest ih =>
      have hfirst := (honeLine first List.mem_cons_self).count_eq
      cases rest with
      | nil => rw [join, List.intercalate_singleton, hfirst, List.length_singleton]
      | cons second rest =>
          have hrest := ih (List.cons_ne_nil second rest)
            fun part hpart => honeLine part (List.mem_cons_of_mem first hpart)
          rw [join_cons, List.count_append, List.count_append, hfirst, List.count_singleton_self,
            List.length_cons, ← hrest]
          omega

theorem trim_append_of_forall (text : Text) {more : Text} (hblank : ∀ c ∈ more, isBlank c = true) :
    trim (text ++ more) = trim text := by
  induction more generalizing text with
  | nil => rw [List.append_nil]
  | cons c rest ih =>
      rw [List.append_cons, ih _ fun d hd => hblank d (List.mem_cons_of_mem c hd),
        trim_append_of_isBlank text (hblank c List.mem_cons_self)]

end Text

namespace Document

/-! ## Bodies without the blank lines behind them -/

theorem bodyText_append_of_isBlank {lines blanks : List Line} (hnil : lines ≠ [])
    (hblank : ∀ line ∈ blanks, line.isBlank = true) :
    bodyText (lines ++ blanks) = bodyText lines := by
  induction blanks generalizing lines with
  | nil => rw [List.append_nil]
  | cons line rest ih =>
      have hraw : Text.trim line.raw = [] :=
        List.isEmpty_iff.mp (hblank line List.mem_cons_self)
      rw [List.append_cons, ih (List.append_ne_nil_of_right_ne_nil _ (List.cons_ne_nil _ _))
        fun other hother => hblank other (List.mem_cons_of_mem line hother)]
      have hmap : lines.map Line.raw ≠ [] := fun heq => hnil (List.map_eq_nil_iff.mp heq)
      rw [bodyText, List.map_append, List.map_singleton, Text.join_concat hmap, List.append_assoc,
        Text.trim_append_of_forall]
      · rfl
      · exact List.forall_mem_cons.mpr ⟨by decide, Text.trim_eq_nil_iff.mp hraw⟩

/-- A body that is cut behind one of its lines has at most as many breaks as lines before it. -/
theorem count_bodyText_le {lines : List Line} (hlines : AreLines lines) (last : Line)
    (hlast : Text.IsOneLine last.raw) :
    (bodyText (lines ++ [last])).count '\n' ≤ lines.length := by
  have honeLine : AreLines (lines ++ [last]) := by
    intro line hline
    rcases List.mem_append.mp hline with hline | hline
    · exact hlines line hline
    · rwa [List.mem_singleton.mp hline]
  have hnil : (lines ++ [last]).map Line.raw ≠ [] := by simp
  have hcount := Text.count_join hnil honeLine.raw
  have htrim : (bodyText (lines ++ [last])).count '\n' ≤ _ :=
    (Text.trim_isInfix _).sublist.count_le '\n'
  rw [List.length_map, List.length_append, List.length_singleton] at hcount
  omega

/-! ## The lines of a body -/

/-- The first and the last one of lines that are not blank. -/
structure AreEnds (lines : List Line) (first last : Line) : Prop where
  first_mem : first ∈ lines
  last_mem : last ∈ lines
  first_not_blank : first.isBlank = false
  last_not_blank : last.isBlank = false
  between : ∀ line ∈ lines, line.isBlank = false →
    first.number ≤ line.number ∧ line.number ≤ last.number

theorem bodyLines_isInfix (rest : List Line) : bodyLines rest <:+: rest := by
  have hbody : bodyLines rest <:+: (readHeaders rest false rest).2 :=
    (List.takeWhile_prefix _).isInfix.trans (List.dropWhile_suffix Line.isBlank).isInfix
  exact hbody.trans (readHeaders_suffix false (List.suffix_refl rest)).isInfix

theorem isBlank_of_mem_head?_bodyLines {rest : List Line} :
    ∀ first ∈ (bodyLines rest).head?, first.isBlank = false := by
  intro first hfirst
  rw [Option.mem_def, bodyLines, splitBody] at hfirst
  dsimp only at hfirst
  rw [List.head?_takeWhile, Option.filter_eq_some_iff] at hfirst
  have hblank := List.head?_dropWhile_not Line.isBlank (readHeaders rest false rest).2
  rw [hfirst.1] at hblank
  exact hblank

/-- Lines up to the last one that is not blank. -/
theorem exists_last {lines : List Line} {first : Line} (hfirst : first ∈ lines)
    (hblank : first.isBlank = false) : ∃ before last blanks, lines = before ++ last :: blanks ∧
      last.isBlank = false ∧ ∀ line ∈ blanks, line.isBlank = true := by
  have hfind : (lines.reverse.find? fun line => !line.isBlank).isSome = true := by
    rw [List.find?_isSome]
    exact ⟨first, List.mem_reverse.mpr hfirst, by rw [hblank]; rfl⟩
  obtain ⟨last, hlast⟩ := Option.isSome_iff_exists.mp hfind
  obtain ⟨hlast, blanks, before, hlines, hblanks⟩ := List.find?_eq_some_iff_append.mp hlast
  refine ⟨before.reverse, last, blanks.reverse, ?_, ?_, fun line hline => ?_⟩
  · rw [← List.reverse_reverse lines, hlines, List.reverse_append, List.reverse_cons,
      List.append_assoc]
    rfl
  · rwa [Bool.not_eq_true'] at hlast
  · have hline := hblanks line (List.mem_reverse.mp hline)
    rwa [Bool.not_not] at hline

section Ends

variable {number : Nat} {raws : List Text} {before blanks : List Line} {first last : Line}
  (hlines : Line.numberFrom number raws = before ++ last :: blanks)
  (hblanks : ∀ line ∈ blanks, line.isBlank = true)

include hlines hblanks

theorem areEnds_of_eq_append (hfirst : (Line.numberFrom number raws).head? = some first)
    (hfirstBlank : first.isBlank = false) (hlastBlank : last.isBlank = false) :
    AreEnds (Line.numberFrom number raws) first last where
  first_mem := List.mem_of_mem_head? hfirst
  last_mem := hlines ▸ List.mem_append_right before List.mem_cons_self
  first_not_blank := hfirstBlank
  last_not_blank := hlastBlank
  between := by
    intro line hline hnot
    constructor
    · rw [Line.number_of_mem_head?_numberFrom first hfirst]
      exact (Line.number_of_mem_numberFrom hline).1
    · rw [hlines] at hline
      rcases List.mem_append.mp hline with hbefore | hline
      · exact Line.number_le_of_numberFrom_eq_append hlines hbefore
      · rcases List.mem_cons.mp hline with rfl | hblank
        · exact Nat.le_refl _
        · exact nomatch (hblanks line hblank).symm.trans hnot

/-- What is left when the text of the lines is trimmed reaches no further than to the last one that
is not blank. -/
theorem count_bodyText_numberFrom_le (honeLine : ∀ raw ∈ raws, Text.IsOneLine raw) :
    number + (bodyText (Line.numberFrom number raws)).count '\n' ≤ last.number := by
  have hareLines := areLines_numberFrom honeLine number
  rw [hlines] at hareLines
  have hcount := count_bodyText_le (hareLines.mono (List.subset_append_left _ _)) last
    (hareLines last (List.mem_append_right _ List.mem_cons_self))
  rw [hlines, List.append_cons, bodyText_append_of_isBlank
    (List.append_ne_nil_of_right_ne_nil _ (List.cons_ne_nil _ _)) hblanks,
    Line.number_of_numberFrom_eq_append hlines]
  omega

end Ends

theorem eq_bodyText_of_readBody {lines : List Line} {body : Text}
    (hbody : readBody lines = some body) : body = bodyText lines := by
  unfold readBody at hbody
  dsimp only at hbody
  split at hbody
  · exact nomatch hbody
  · exact (Option.some.inj hbody).symm

/-- The text of a body has no more breaks than there are lines from the first one that is not blank
to the last one. -/
theorem exists_of_readBody {raws : List Text} (honeLine : ∀ raw ∈ raws, Text.IsOneLine raw)
    {rest : List Line} (hinside : bodyLines rest <:+: Line.numberFrom 1 raws) {body : Text}
    (hbody : readBody (bodyLines rest) = some body) :
    ∃ first last, (bodyLines rest).head? = some first ∧ AreEnds (bodyLines rest) first last ∧
      1 ≤ first.number ∧ last.number ≤ raws.length ∧
      first.number + body.count '\n' ≤ last.number := by
  have hnil : bodyLines rest ≠ [] := by
    intro heq
    rw [heq] at hbody
    exact nomatch hbody
  obtain ⟨first, hfirst⟩ := Option.ne_none_iff_exists'.mp (mt List.head?_eq_none_iff.mp hnil)
  have hblank := isBlank_of_mem_head?_bodyLines first hfirst
  obtain ⟨before, last, blanks, hlines, hlast, hblanks⟩ :=
    exists_last (List.mem_of_mem_head? hfirst) hblank
  obtain ⟨start, part, hpart, hnumbered⟩ := Line.exists_of_isInfix_numberFrom hinside
  obtain rfl := eq_bodyText_of_readBody hbody
  rw [hnumbered] at hlines hfirst
  have hends := areEnds_of_eq_append hlines hblanks hfirst hblank hlast
  have hcount := count_bodyText_numberFrom_le hlines hblanks
    fun raw hraw => honeLine raw (hpart.subset hraw)
  have hstart := Line.number_of_mem_head?_numberFrom first hfirst
  rw [← hnumbered] at hends hcount hfirst
  have hfirstBounds := Line.number_of_mem_numberFrom (hinside.subset hends.first_mem)
  have hlastBounds := Line.number_of_mem_numberFrom (hinside.subset hends.last_mem)
  exact ⟨first, last, hfirst, hends, hfirstBounds.1, by omega, by rwa [hstart]⟩

/-! ## Documents -/

theorem read_eq_error_iff {text : Text} {fault : DocumentFault} :
    Document.read text = .error fault ↔ (readUpToFault text).2 = some fault := by
  unfold Document.read
  rcases readUpToFault text with ⟨records, _ | other⟩
  · exact ⟨nofun, nofun⟩
  · exact ⟨fun heq => congrArg some (Except.error.inj heq),
      fun heq => congrArg Except.error (Option.some.inj heq)⟩

theorem exists_read_eq_ok {text : Text} (hnone : (readUpToFault text).2 = none) :
    ∃ records, Document.read text = .ok records := by
  unfold Document.read
  rcases hread : readUpToFault text with ⟨records, _ | fault⟩
  · exact ⟨records, rfl⟩
  · rw [hread] at hnone
    exact nomatch hnone

theorem readUpToFault_join {raws : List Text} (honeLine : ∀ raw ∈ raws, Text.IsOneLine raw) :
    readUpToFault (Text.join ['\n'] raws) = readRecords (Line.numberFrom 1 raws) := by
  cases raws with
  | nil => rfl
  | cons raw rest =>
      rw [readUpToFault_eq, Text.lines_join (List.cons_ne_nil raw rest) honeLine]

/-- The fault of a line among the lines of a document. -/
theorem read_of_failsAtLine {text : Text} {before after : List Line} {line : Line}
    {fault : DocumentFault} (hlines : Line.numberFrom 1 (Text.lines text) = before ++ line :: after)
    (hfails : FailsAtLine before line fault) :
    ((1 ≤ fault.line ∧ fault.line ≤ (Text.lines text).length) ∧
      ((Text.lines text)[fault.line - 1]?).map Text.trim = some fault.text) ∧
      (∃ records, Document.read (Text.join ['\n'] ((Text.lines text).take (fault.line - 1))) =
        .ok records) ∧
      ∀ other, (Text.lines other).take fault.line = (Text.lines text).take fault.line →
        Document.read other = .error fault := by
  obtain ⟨above, below, hraws, rfl, hbelow⟩ := Line.exists_of_numberFrom_eq_append hlines
  obtain ⟨raw, below, rfl⟩ : ∃ raw more, below = raw :: more := by
    cases below with
    | nil => exact nomatch hbelow
    | cons raw more => exact ⟨raw, more, rfl⟩
  obtain ⟨rfl, -⟩ := List.cons_eq_cons.mp hbelow
  have hline : fault.line = above.length + 1 := hfails.line_eq.trans (Nat.add_comm _ _)
  have habove : ∀ raw ∈ above, Text.IsOneLine raw := fun raw hraw =>
    Text.isOneLine_of_mem_lines text raw (hraws ▸ List.mem_append_left _ hraw)
  rw [hline, Nat.add_sub_cancel, hraws, hfails.text_eq]
  refine ⟨⟨⟨?_, ?_⟩, ?_⟩, ?_, fun other hother => ?_⟩
  · omega
  · rw [List.length_append, List.length_cons]
    omega
  · rw [List.getElem?_append_right (Nat.le_refl _), Nat.sub_self]
    rfl
  · rw [List.take_left' rfl]
    refine exists_read_eq_ok ?_
    rw [readUpToFault_join habove]
    exact hfails.readable
  · -- the lines of the other document up to the same one, and whatever it has after them
    have hsame : Text.lines other =
        above ++ raw :: (Text.lines other).drop (above.length + 1) := by
      rw [List.take_append, List.take_of_length_le (Nat.le_succ _), Nat.add_sub_cancel_left,
        List.take_succ_cons, List.take_zero] at hother
      rw [List.append_cons, ← hother, List.take_append_drop]
    refine read_eq_error_iff.mpr ?_
    rw [readUpToFault_eq, hsame, Line.numberFrom_append]
    exact hfails.fails _

theorem ofText_eq_numberFrom {text : Text} (hnil : text ≠ []) :
    Line.ofText text = Line.numberFrom 1 (Text.lines text) := by
  rw [Line.ofText, List.isEmpty_eq_false_iff.mpr hnil]
  rfl

/-- Every fault names a line of the document.  A fault in a body comes with the whole trimmed body
of a request that the reader came to, and names the line at which decoding stopped, which is one of
the lines from the first to the last one of the body that are not blank.  Any other fault comes with
the trimmed line that it names, and it is the first one: the lines above are read without a fault,
and every document that has the same lines as far as that has the same fault. -/
theorem fault_of_read {text : Text} {fault : DocumentFault}
    (hread : Document.read text = .error fault) :
    (1 ≤ fault.line ∧ fault.line ≤ (Text.lines text).length) ∧
    (∀ problem, fault.problem = .badJsonBody problem →
      ∃ block line rest first last position,
        ComesTo (Line.ofText text) block line rest ∧
        (LineForm.requestLine? line.content).isSome = true ∧
        readRequest block line rest = .error fault ∧
        bodyLines rest <:+: Line.ofText text ∧ AreEnds (bodyLines rest) first last ∧
        readBody (bodyLines rest) = some fault.text ∧
        fault.text = Text.trim (Text.join ['\n'] ((bodyLines rest).map Line.raw)) ∧
        Json.read fault.text = .error ⟨problem, position⟩ ∧
        fault.line = first.number + (fault.text.take position).count '\n' ∧
        first.number ≤ fault.line ∧ fault.line ≤ last.number) ∧
    ((∀ problem, fault.problem ≠ .badJsonBody problem) →
      ((Text.lines text)[fault.line - 1]?).map Text.trim = some fault.text ∧
      (∃ records, Document.read (Text.join ['\n'] ((Text.lines text).take (fault.line - 1))) =
        .ok records) ∧
      ∀ other, (Text.lines other).take fault.line = (Text.lines text).take fault.line →
        Document.read other = .error fault) := by
  have hfault := read_eq_error_iff.mp hread
  have hnil : text ≠ [] := by
    rintro rfl
    rw [readUpToFault, Line.ofText, List.isEmpty_nil, if_pos rfl, readRecords] at hfault
    cases hfault
  have hnumbered := ofText_eq_numberFrom hnil
  rcases exists_of_readRecords hfault with ⟨before, line, after, hlines, hfails, hproblem⟩ |
    ⟨block, line, rest, hcomes, hline, hrequest⟩
  · obtain ⟨⟨hbounds, htext⟩, hbefore, hother⟩ := read_of_failsAtLine (hnumbered ▸ hlines) hfails
    exact ⟨hbounds, fun problem heq => absurd heq (hproblem problem),
      fun _ => ⟨htext, hbefore, hother⟩⟩
  · obtain ⟨body, stop, hbody, hstop, rfl⟩ := exists_of_readRequest_eq_error hline hrequest
    have hinside : bodyLines rest <:+: Line.ofText text :=
      (bodyLines_isInfix rest).trans
        ((List.suffix_cons line rest).trans hcomes.suffix).isInfix
    obtain ⟨first, last, hfirst, hends, hlow, hhigh, hcount⟩ :=
      exists_of_readBody (Text.isOneLine_of_mem_lines text) (hnumbered ▸ hinside) hbody
    have hstopLine : ((bodyLines rest).head?.map Line.number).getD 0 + stop.line body - 1 =
        first.number + (body.take stop.position).count '\n' := by
      rw [hfirst]
      rfl
    have htake := (List.take_sublist stop.position body).count_le '\n'
    dsimp only
    rw [hstopLine] at hrequest ⊢
    have hbetween : first.number ≤ first.number + (body.take stop.position).count '\n' ∧
        first.number + (body.take stop.position).count '\n' ≤ last.number := by omega
    refine ⟨⟨hlow.trans hbetween.1, hbetween.2.trans hhigh⟩, fun problem heq => ?_,
      fun hproblem => absurd rfl (hproblem stop.problem)⟩
    obtain rfl := DocumentProblem.badJsonBody.inj heq
    exact ⟨block, line, rest, first, last, stop.position, hcomes, hline, hrequest, hinside, hends,
      hbody, eq_bodyText_of_readBody hbody, hstop, rfl, hbetween⟩

theorem read_of_readRecord_eq_error {text : Text} {first : Line} {rest : List Line}
    {fault : DocumentFault} (hlines : Line.ofText text = first :: rest)
    (hrecord : readRecord first rest = .error fault) : Document.read text = .error fault := by
  refine read_eq_error_iff.mpr ?_
  rw [readUpToFault, hlines, readRecords_cons, hrecord]

/-- A body from the fourth to the sixth line, in which decoding stops at the last of its lines, and
a line that is no request line, whatever follows it. -/
theorem fault_of_read_stopped :
    (∃ problem block line rest first last,
      Document.read "POST /a\ncontent-type: json\n\n\x7b\n\nx\n\n" =
        .error ⟨.badJsonBody problem, 6, "\x7b\n\nx"⟩ ∧
      ComesTo (Line.ofText "POST /a\ncontent-type: json\n\n\x7b\n\nx\n\n") block line rest ∧
      AreEnds (bodyLines rest) first last ∧ first.number ≤ 6 ∧ 6 ≤ last.number) ∧
    ∀ other : Text, (Text.lines other).take 3 = (Text.lines "# note\n\nget /a\n").take 3 →
      Document.read other = .error ⟨.requestLineExpected "get /a", 3, "get /a"⟩ := by
  have hbody : Line.ofText "POST /a\ncontent-type: json\n\n\x7b\n\nx\n\n" =
      [⟨1, "POST /a"⟩, ⟨2, "content-type: json"⟩, ⟨3, []⟩, ⟨4, "\x7b"⟩, ⟨5, []⟩, ⟨6, "x"⟩, ⟨7, []⟩,
        ⟨8, []⟩] := by decide
  have hline : Line.ofText "# note\n\nget /a\n" =
      [⟨1, "# note"⟩, ⟨2, []⟩, ⟨3, "get /a"⟩, ⟨4, []⟩] := by decide
  have hbadBody : Document.read "POST /a\ncontent-type: json\n\n\x7b\n\nx\n\n" =
      .error ⟨.badJsonBody .expectedPropertyName, 6, "\x7b\n\nx"⟩ :=
    read_of_readRecord_eq_error hbody rfl
  have hbadLine : Document.read "# note\n\nget /a\n" =
      .error ⟨.requestLineExpected "get /a", 3, "get /a"⟩ :=
    read_of_readRecord_eq_error hline rfl
  constructor
  · obtain ⟨block, line, rest, first, last, -, hcomes, -, -, -, hends, -, -, -, -, hbetween⟩ :=
      (fault_of_read hbadBody).2.1 _ rfl
    exact ⟨_, block, line, rest, first, last, hbadBody, hcomes, hends, hbetween⟩
  · exact ((fault_of_read hbadLine).2.2 nofun).2.2

end Document

end HttpScript
