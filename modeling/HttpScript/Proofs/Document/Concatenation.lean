import HttpScript.Proofs.Document.LineNumbers
import HttpScript.Proofs.Table
import HttpScript.Proofs.Text.Lines

/-!
# Documents one after the other

Two documents with a separator between them are read as the first and then the second.  Each part
of the reader stops at a separator as it stops at the end of the lines, with what follows left over,
and nothing is carried from one block to the next; only the line numbers of the second document
grow, by the lines of the first and the separator.

The lines of a document that is empty are none, although an empty text is cut into one empty line.
`readUpToFault_eq` says that the difference does not show, so that everything below can be said of
the lines of the text.
-/

namespace HttpScript

/-! ## What a separator is not -/

namespace Line

variable {line : Line} (hseparator : line.isSeparator = true)

include hseparator

theorem content_eq_of_isSeparator : line.content = LineForm.separator :=
  of_decide_eq_true hseparator

theorem isBlank_eq_false_of_isSeparator : line.isBlank = false := by
  rw [isBlank, content_eq_of_isSeparator hseparator]
  rfl

theorem comment?_eq_none_of_isSeparator : LineForm.comment? line.content = none := by
  rw [content_eq_of_isSeparator hseparator]
  rfl

theorem declaration?_eq_none_of_isSeparator : LineForm.declaration? line.content = none := by
  rw [content_eq_of_isSeparator hseparator]
  rfl

theorem header?_eq_none_of_isSeparator : LineForm.header? line.content = none := by
  rw [content_eq_of_isSeparator hseparator]
  decide

end Line

namespace Document

/-! ## Every part of the reader stops at a separator -/

section Stop

variable {α : Type} (p : α → Bool) {stop : α}

private theorem takeWhile_append_stop (hstop : p stop = false) (before after : List α) :
    (before ++ stop :: after).takeWhile p = before.takeWhile p := by
  induction before with
  | nil => rw [List.nil_append, List.takeWhile_cons, hstop]; rfl
  | cons first rest ih => rw [List.cons_append, List.takeWhile_cons, List.takeWhile_cons, ih]

private theorem dropWhile_append_stop (hstop : p stop = false) (before after : List α) :
    (before ++ stop :: after).dropWhile p = before.dropWhile p ++ stop :: after := by
  rw [List.dropWhile_append, List.dropWhile_cons, hstop]
  split
  · next hempty => rw [List.isEmpty_iff.mp hempty]; rfl
  · rfl

end Stop

section Parts

variable {line : Line} (hseparator : line.isSeparator = true) (after : List Line)

include hseparator

theorem readPreamble_append (block : Block) (before : List Line) :
    readPreamble block (before ++ line :: after) =
      (readPreamble block before).map (Prod.map id (· ++ line :: after)) := by
  fun_induction readPreamble block before with
  | case1 block =>
      exact readPreamble_stop block line (Line.isBlank_eq_false_of_isSeparator hseparator)
        (Line.comment?_eq_none_of_isSeparator hseparator)
        (Line.declaration?_eq_none_of_isSeparator hseparator)
  | case2 block first rest hblank ih =>
      rw [List.cons_append, readPreamble_blank block first hblank, ih]
  | case3 block first rest _ comment hcomment hdirective ih =>
      rw [List.cons_append, readPreamble_comment block first hcomment hdirective, ih]
  | case4 block first rest _ comment hcomment marked hdirective directives hadd ih =>
      rw [List.cons_append, readPreamble_directive block first hcomment hdirective hadd, ih]
  | case5 block first rest _ comment hcomment marked hdirective problem hadd =>
      rw [List.cons_append, readPreamble_badDirective block first hcomment hdirective hadd]
      rfl
  | case6 block first rest _ hcomment marked value hdeclaration declared ih =>
      rw [List.cons_append, readPreamble_declaration block first hcomment hdeclaration, ih]
  | case7 block first rest hblank hcomment hdeclaration =>
      rw [List.cons_append, readPreamble_stop block first (Bool.not_eq_true _ ▸ hblank) hcomment
        hdeclaration]
      rfl

theorem readHeaders_append (start : List Line) (seenBlank : Bool) (before : List Line) :
    readHeaders (start ++ line :: after) seenBlank (before ++ line :: after) =
      ((readHeaders start seenBlank before).1,
        (readHeaders start seenBlank before).2 ++ line :: after) := by
  fun_induction readHeaders start seenBlank before with
  | case1 start seenBlank =>
      have hcomment : LineForm.isComment line.content = false := by
        rw [LineForm.isComment, Line.comment?_eq_none_of_isSeparator hseparator]
        rfl
      exact readHeaders_stop line (Line.isBlank_eq_false_of_isSeparator hseparator)
        (by rw [hcomment, Bool.and_false]) (Line.header?_eq_none_of_isSeparator hseparator)
  | case2 start seenBlank first rest hblank ih =>
      rw [List.cons_append, readHeaders_blank first hblank, ih]
  | case3 start seenBlank first rest _ hcomment ih =>
      obtain ⟨hseen, hcomment⟩ := Bool.and_eq_true_iff.mp hcomment
      rw [Bool.not_eq_true'] at hseen
      rw [List.cons_append, hseen, readHeaders_comment first hcomment, ih]
  | case4 start seenBlank first rest hblank hcomment header hheader headers left hread ih =>
      rw [hread] at ih
      rw [List.cons_append, readHeaders, if_neg hblank, if_neg hcomment, hheader]
      dsimp only
      rw [ih]
  | case5 start seenBlank first rest hblank hcomment hheader =>
      rw [List.cons_append, readHeaders_stop first (Bool.not_eq_true _ ▸ hblank)
        (Bool.not_eq_true _ ▸ hcomment) hheader]

theorem splitBody_append (before : List Line) :
    splitBody (before ++ line :: after) =
      ((splitBody before).1, (splitBody before).2 ++ line :: after) := by
  have hstop : (!line.isSeparator) = false := by rw [hseparator]; rfl
  rw [splitBody, splitBody,
    dropWhile_append_stop _ (Line.isBlank_eq_false_of_isSeparator hseparator),
    takeWhile_append_stop (fun line : Line => !line.isSeparator) hstop,
    dropWhile_append_stop (fun line : Line => !line.isSeparator) hstop]

theorem readRequest_append (block : Block) (first : Line) (rest : List Line) :
    readRequest block first (rest ++ line :: after) =
      (readRequest block first rest).map (Prod.map id (· ++ line :: after)) := by
  rw [readRequest, readRequest]
  cases LineForm.requestLine? first.content with
  | none => rfl
  | some found =>
      dsimp only
      rw [readHeaders_append hseparator, splitBody_append hseparator]
      dsimp only
      cases decodeBody _ _ <;> rfl

end Parts

/-! ## Whole blocks up to a separator -/

/-- What is left after a block, when a separator and more lines follow: a block that was ended by
the end of the lines ends at the separator now. -/
def IsLeftBefore (line : Line) (after left joined : List Line) : Prop :=
  joined = left ++ line :: after ∨ left = [] ∧ joined = after

section Blocks

variable {line : Line} (hseparator : line.isSeparator = true) (after : List Line)

include hseparator

theorem readRecord_append (first : Line) (rest : List Line) :
    match readRecord first rest with
    | .error fault => readRecord first (rest ++ line :: after) = .error fault
    | .ok (record, left) => ∃ joined, IsLeftBefore line after left joined ∧
        readRecord first (rest ++ line :: after) = .ok (record, joined) := by
  have happend := readPreamble_append hseparator after (Block.start first.number) (first :: rest)
  rw [List.cons_append] at happend
  match hpreamble : readPreamble (Block.start first.number) (first :: rest) with
  | .error fault =>
      rw [hpreamble] at happend
      rw [readRecord_fault hpreamble]
      exact readRecord_fault happend
  | .ok (block, []) =>
      -- the block came to the end of the lines; now it comes to the separator
      rw [hpreamble] at happend
      rw [readRecord_atEnd hpreamble]
      exact ⟨after, .inr ⟨rfl, rfl⟩, readRecord_atSeparator happend hseparator⟩
  | .ok (block, stop :: left) =>
      rw [hpreamble] at happend
      change _ = Except.ok (block, stop :: (left ++ line :: after)) at happend
      cases hstop : stop.isSeparator with
      | true =>
          rw [readRecord_atSeparator hpreamble hstop]
          exact ⟨left ++ line :: after, .inl rfl, readRecord_atSeparator happend hstop⟩
      | false =>
          have hrequest := readRequest_append hseparator after block stop left
          rw [readRecord_request hpreamble hstop, readRecord_request happend hstop, hrequest]
          cases readRequest block stop left with
          | error fault => rfl
          | ok read =>
              obtain ⟨request, left⟩ := read
              cases left with
              | nil => exact ⟨after, .inr ⟨rfl, rfl⟩, rfl⟩
              | cons next left => exact ⟨left ++ line :: after, .inl rfl, rfl⟩

theorem readRecords_separator : readRecords (line :: after) = readRecords after := by
  have hpreamble := readPreamble_append hseparator after (Block.start line.number) []
  rw [readRecords_cons, readRecord_atSeparator hpreamble hseparator]
  rfl

/-- The records before a separator are followed by the records after it, unless there was a fault
before it. -/
theorem readRecords_append (before : List Line) :
    readRecords (before ++ line :: after) =
      match readRecords before with
      | (records, some fault) => (records, some fault)
      | (records, none) => (records ++ (readRecords after).1, (readRecords after).2) := by
  fun_induction readRecords before with
  | case1 => exact readRecords_separator hseparator after
  | case2 first rest fault hread =>
      have happend := readRecord_append hseparator after first rest
      rw [hread] at happend
      rw [List.cons_append, readRecords_cons, happend]
  | case3 first rest record left hread hleft records fault hrecords ih =>
      have happend := readRecord_append hseparator after first rest
      rw [hread] at happend
      obtain ⟨joined, hjoined, happend⟩ := happend
      -- whether or not the separator was used up, the same records follow
      have hjoined : readRecords joined = readRecords (left ++ line :: after) := by
        rcases hjoined with rfl | ⟨rfl, rfl⟩
        · rfl
        · exact (readRecords_separator hseparator joined).symm
      rw [List.cons_append, readRecords_cons, happend]
      dsimp only
      rw [hjoined, ih, hrecords]
      cases fault with
      | none => simp only [List.append_assoc]
      | some fault => rfl

theorem readRecords_append_iff {before : List Line} {records : List Record} :
    readRecords (before ++ line :: after) = (records, none) ↔
      ∃ first second, readRecords before = (first, none) ∧ readRecords after = (second, none) ∧
        first ++ second = records := by
  rw [readRecords_append hseparator]
  rcases hbefore : readRecords before with ⟨first, _ | fault⟩
  · dsimp only
    constructor
    · intro hread
      obtain ⟨hrecords, hnone⟩ := Prod.mk.inj hread
      exact ⟨first, _, rfl, Prod.ext rfl hnone, hrecords⟩
    · rintro ⟨_, second, hfirst, hsecond, rfl⟩
      obtain ⟨rfl, -⟩ := Prod.mk.inj hfirst
      rw [hsecond]
  · constructor
    · intro hread
      cases hread
    · rintro ⟨_, second, hfirst, -, -⟩
      cases hfirst

end Blocks

/-! ## Documents one after the other -/

/-- A document that is empty is read as one empty line. -/
theorem readUpToFault_eq (text : Text) :
    readUpToFault text = readRecords (Line.numberFrom 1 (Text.lines text)) := by
  cases text with
  | nil => rw [readUpToFault, Text.lines, Line.numberFrom, readRecords_cons]; rfl
  | cons c rest => rfl

theorem lines_separated (first second : Text) (hend : first.getLast? ≠ some '\r') :
    Text.lines (first ++ "\n###\n" ++ second) =
      Text.lines first ++ "###".toList :: Text.lines second := by
  have hbreak : first ++ "\n###\n".toList ++ second =
      first ++ '\n' :: ("###".toList ++ '\n' :: second) := by
    rw [List.append_assoc]
    rfl
  rw [hbreak, Text.lines_append_newline _ _ hend, Text.lines_append_newline _ _ (by decide)]
  rfl

theorem readUpToFault_separated (first second : Text) (hend : first.getLast? ≠ some '\r') :
    readUpToFault (first ++ "\n###\n" ++ second) =
      match readUpToFault first with
      | (records, some fault) => (records, some fault)
      | (records, none) =>
          let count := (Text.lines first).length + 1
          (records ++ (readUpToFault second).1.map (Record.moveDown count),
            (readUpToFault second).2.map (DocumentFault.moveDown count)) := by
  have hseparator (number : Nat) : Line.isSeparator ⟨number, "###".toList⟩ = true := by
    show decide (Text.trim "###".toList = LineForm.separator) = true
    decide
  have hnumber : 1 + (Text.lines first).length + 1 = 1 + ((Text.lines first).length + 1) :=
    Nat.add_assoc _ _ _
  rw [readUpToFault_eq, readUpToFault_eq first, readUpToFault_eq second,
    lines_separated first second hend, Line.numberFrom_append, Line.numberFrom,
    readRecords_append (hseparator _), hnumber, Line.numberFrom_add, readRecords_moveDown]

/-! ## Reading as a whole -/

theorem collectGlobals_append (first second : List Record) (name : Text) :
    Table.get? (collectGlobals (first ++ second)) name =
      (Table.get? (collectGlobals second) name).or (Table.get? (collectGlobals first) name) := by
  rw [collectGlobals, List.flatMap_append, List.filter_append, Table.get?_ofEntries_append]
  rfl

theorem collectGlobals_moveDown (count : Nat) (records : List Record) :
    collectGlobals (records.map (Record.moveDown count)) = collectGlobals records := by
  have hdeclared (record : Record) :
      (record.moveDown count).block.declared = record.block.declared := by
    cases record <;> rfl
  rw [collectGlobals, List.flatMap_map]
  simp only [hdeclared]
  rfl

/-- The records of two documents with a separator between them, or the first fault of the two. -/
theorem read_eq_of_separated (first second : Text) (hend : first.getLast? ≠ some '\r') :
    Document.read (first ++ "\n###\n" ++ second) =
      (Document.read first).bind fun records =>
        let count := (Text.lines first).length + 1
        ((Document.read second).mapError (DocumentFault.moveDown count)).map fun more =>
          records ++ more.map (Record.moveDown count) := by
  rw [Document.read, readUpToFault_separated first second hend, Document.read, Document.read]
  obtain ⟨records, _ | fault⟩ := readUpToFault first
  · obtain ⟨more, _ | fault⟩ := readUpToFault second <;> rfl
  · rfl

/-- Two documents with a separator between them: a fault in the first one is reported as it is, and
a fault in the second one further down.  Otherwise the records of both are read, those of the second
one further down, and of two global declarations of a name the one in the second document counts. -/
theorem read_separated (first second : Text) (hend : first.getLast? ≠ some '\r') :
    let joined := first ++ "\n###\n" ++ second
    let count := (Text.lines first).length + 1
    (∀ fault, Document.read first = .error fault → Document.read joined = .error fault) ∧
    (∀ records fault, Document.read first = .ok records → Document.read second = .error fault →
      Document.read joined = .error (fault.moveDown count)) ∧
    (∀ records more, Document.read first = .ok records → Document.read second = .ok more →
      ∃ all, Document.read joined = .ok all ∧
        all = records ++ more.map (Record.moveDown count) ∧
        ∀ name, Table.get? (collectGlobals all) name =
          (Table.get? (collectGlobals more) name).or
            (Table.get? (collectGlobals records) name)) := by
  intro joined count
  have hjoined := read_eq_of_separated first second hend
  refine ⟨fun fault hfirst => ?_, fun records fault hfirst hsecond => ?_,
    fun records more hfirst hsecond => ⟨_, ?_, rfl, fun name => ?_⟩⟩
  · exact hjoined.trans (by rw [hfirst]; rfl)
  · exact hjoined.trans (by rw [hfirst, hsecond]; rfl)
  · exact hjoined.trans (by rw [hfirst, hsecond]; rfl)
  · rw [collectGlobals_append, collectGlobals_moveDown]

/-- A global variable declared in both documents has its second value. -/
theorem read_separated_redeclared :
    ∃ all, Document.read ("@@a=1" ++ "\n###\n" ++ "@@a=2") = .ok all ∧
      Table.get? (collectGlobals all) "a" = some ⟨some "2", true⟩ := by
  have hline (text : Text) (hlines : Line.ofText text = [⟨1, text⟩]) {record : Record}
      (hrecord : readRecord ⟨1, text⟩ [] = .ok (some record, [])) :
      Document.read text = .ok [record] := read_of_readRecord hlines hrecord
  have hfirst : Document.read "@@a=1" = .ok [.bare ⟨1, [("a", ⟨some "1", true⟩)], []⟩] :=
    hline "@@a=1" (by decide) rfl
  have hsecond : Document.read "@@a=2" = .ok [.bare ⟨1, [("a", ⟨some "2", true⟩)], []⟩] :=
    hline "@@a=2" (by decide) rfl
  obtain ⟨all, hall, -, hglobals⟩ :=
    (read_separated "@@a=1" "@@a=2" (by decide)).2.2 _ _ hfirst hsecond
  exact ⟨all, hall, (hglobals "a").trans rfl⟩

end Document

end HttpScript
