import HttpScript.Proofs.Document.Faults

/-!
# Line breaks of three kinds

A line of a script ends at `\r\n`, at `\r` or at `\n`, and a text may have breaks of all three
kinds.  Which kind a break has shows nowhere in what is read: the text is cut into lines first, the
lines are numbered, and the text of a body and the lines of its faults are made from these lines
alone.

The one thing to see to is that `\r\n` is a single break.  So a `\r` counts as a break of its own
only in front of something other than `\n`, and `IsBreak` is about a mark with the text behind it.
-/

namespace HttpScript

namespace Text

/-- The marks that break a line in front of a text. -/
inductive IsBreak (rest : Text) : Text → Prop
  | newline : IsBreak rest ['\n']
  | carriageReturn (hnext : rest.head? ≠ some '\n') : IsBreak rest ['\r']
  | pair : IsBreak rest ['\r', '\n']

/-- Texts that are alike but for the kinds of their line breaks. -/
inductive AlikeButBreaks : Text → Text → Prop
  | nil : AlikeButBreaks [] []
  | char {c : Char} {first second : Text} (hreturn : c ≠ '\r') (hnewline : c ≠ '\n')
      (hrest : AlikeButBreaks first second) : AlikeButBreaks (c :: first) (c :: second)
  | lineBreak {first second mark other : Text} (hmark : IsBreak first mark)
      (hother : IsBreak second other) (hrest : AlikeButBreaks first second) :
      AlikeButBreaks (mark ++ first) (other ++ second)

/-! ## Cutting into lines -/

theorem IsBreak.lines_append {rest mark : Text} (hmark : IsBreak rest mark) :
    lines (mark ++ rest) = [] :: lines rest := by
  cases hmark with
  | newline => exact lines_cons_newline rest
  | carriageReturn hnext => exact lines_cons_return hnext
  | pair => exact lines_cons_break rest

theorem IsBreak.isEmpty_append {rest mark : Text} (hmark : IsBreak rest mark) :
    (mark ++ rest).isEmpty = false := by
  cases hmark <;> rfl

theorem AlikeButBreaks.lines_eq {first second : Text} (halike : AlikeButBreaks first second) :
    lines first = lines second := by
  induction halike with
  | nil => rfl
  | char hreturn hnewline _ ih => rw [lines_cons hreturn hnewline, lines_cons hreturn hnewline, ih]
  | lineBreak hmark hother _ ih => rw [hmark.lines_append, hother.lines_append, ih]

theorem AlikeButBreaks.isEmpty_eq {first second : Text} (halike : AlikeButBreaks first second) :
    first.isEmpty = second.isEmpty := by
  cases halike with
  | nil => rfl
  | char => rfl
  | lineBreak hmark hother => rw [hmark.isEmpty_append, hother.isEmpty_append]

theorem AlikeButBreaks.line_append {line first second : Text} (honeLine : IsOneLine line)
    (halike : AlikeButBreaks first second) : AlikeButBreaks (line ++ first) (line ++ second) := by
  induction line with
  | nil => exact halike
  | cons c rest ih =>
      obtain ⟨hreturn, hnewline⟩ := honeLine c List.mem_cons_self
      exact .char hreturn hnewline (ih (honeLine.mono fun d hd => List.mem_cons_of_mem c hd))

/-! ## Plain breaks -/

theorem alikeButBreaks_withPlainBreaks (text : Text) :
    AlikeButBreaks text (withPlainBreaks text) := by
  fun_induction withPlainBreaks text with
  | case1 => exact .nil
  | case2 rest ih => exact .lineBreak .pair .newline ih
  | case3 rest hnext ih =>
      refine .lineBreak (.carriageReturn fun hhead => ?_) .newline ih
      obtain ⟨after, hrest⟩ := List.head?_eq_some_iff.mp hhead
      exact hnext after hrest
  | case4 c rest _ hreturn ih =>
      by_cases hnewline : c = '\n'
      · rw [hnewline]
        exact .lineBreak .newline .newline ih
      · exact .char hreturn hnewline ih

theorem return_notMem_withPlainBreaks (text : Text) : '\r' ∉ withPlainBreaks text := by
  fun_induction withPlainBreaks text with
  | case1 => exact List.not_mem_nil
  | case2 rest ih => simpa using ih
  | case3 rest _ ih => simpa using ih
  | case4 c rest _ hreturn ih => simpa [Ne.symm hreturn] using ih

end Text

/-! ## Reading -/

theorem Line.ofText_of_alikeButBreaks {first second : Text}
    (halike : Text.AlikeButBreaks first second) : ofText first = ofText second := by
  rw [ofText, ofText, halike.isEmpty_eq, halike.lines_eq]

namespace Document

/-- Writing `\n` for every line break of a text changes nothing but the kinds of its breaks, and a
text that is alike but for these, whatever mix of the three kinds it has, is read the same: the same
records with the same line numbers, or the same fault with its message, its line and its text. -/
theorem read_withPlainBreaks (text : Text) :
    Text.AlikeButBreaks text (Text.withPlainBreaks text) ∧ '\r' ∉ Text.withPlainBreaks text ∧
      read (Text.withPlainBreaks text) = read text ∧
      ∀ other, Text.AlikeButBreaks text other →
        readUpToFault other = readUpToFault text ∧ read other = read text := by
  have hsame {other : Text} (halike : Text.AlikeButBreaks text other) :
      readUpToFault other = readUpToFault text :=
    congrArg readRecords (Line.ofText_of_alikeButBreaks halike).symm
  have hread {other : Text} (halike : Text.AlikeButBreaks text other) : read other = read text := by
    rw [read, read, hsame halike]
  have hplain := Text.alikeButBreaks_withPlainBreaks text
  exact ⟨hplain, Text.return_notMem_withPlainBreaks text, hread hplain,
    fun other halike => ⟨hsame halike, hread halike⟩⟩

/-- A body from the fourth to the sixth line that cannot be decoded: its fault has the same line
and the same text however the lines are broken, also where a `\r` comes after a `\n`, or another
`\r`. -/
theorem read_withPlainBreaks_mixed :
    let mixed : Text := "POST /a\rcontent-type: json\r\n\n\x7b\r\n\rx"
    let other : Text := "POST /a\ncontent-type: json\r\r\n\x7b\n\r\nx"
    Text.AlikeButBreaks mixed other ∧
      read mixed = .error ⟨.badJsonBody .expectedPropertyName, 6, "\x7b\n\nx"⟩ ∧
      read other = read mixed ∧ read (Text.withPlainBreaks mixed) = read mixed := by
  intro mixed other
  have hline (line : Text) (hmem : line ∈ Text.lines line) {first second : Text}
      (halike : Text.AlikeButBreaks first second) :
      Text.AlikeButBreaks (line ++ first) (line ++ second) :=
    halike.line_append (Text.isOneLine_of_mem_lines line line hmem)
  have halike : Text.AlikeButBreaks mixed other := by
    refine hline "POST /a" (by decide) (.lineBreak (.carriageReturn (by decide)) .newline ?_)
    refine hline "content-type: json" (by decide)
      (.lineBreak .pair (.carriageReturn (by decide)) ?_)
    refine .lineBreak .newline .pair (hline "\x7b" (by decide) ?_)
    exact .lineBreak .pair .newline (.lineBreak (.carriageReturn (by decide)) .pair
      (hline "x" (by decide) .nil))
  have hlines : Line.ofText mixed =
      [⟨1, "POST /a"⟩, ⟨2, "content-type: json"⟩, ⟨3, []⟩, ⟨4, "\x7b"⟩, ⟨5, []⟩, ⟨6, "x"⟩] := by
    decide
  obtain ⟨-, -, hplain, hsame⟩ := read_withPlainBreaks mixed
  exact ⟨halike, read_of_readRecord_eq_error hlines rfl, (hsame other halike).2, hplain⟩

end Document

end HttpScript
