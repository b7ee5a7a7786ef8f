import HttpScript.Proofs.Document.Preambles
import HttpScript.Proofs.Document.Sections

/-!
# Lines that change nothing

A line that is inserted into a document moves the lines below it down by one.  It changes nothing
else in two places (`Admits`).  Before the request of a block, or anywhere in a block without one,
it may be blank or a comment without a directive, because such a line leaves the block as it is.
After the request line it may be any comment, as long as the reader has not met a blank line since
the last header and a header follows, because there the comment is part of the header section.

The blocks above are read as before, and those below stand one line further down.
-/

namespace HttpScript

/-! ## Records without their lines -/

/-- The same block at another line. -/
def Block.atLine (line : Nat) (block : Block) : Block :=
  { block with line }

/-- The same record at another line. -/
def Record.atLine (line : Nat) : Record → Record
  | .bare inner => .bare (inner.atLine line)
  | .request inner => .request { inner with line }

/-- Records that differ in nothing but their lines. -/
def AlikeButLines (records others : List Record) : Prop :=
  others.map (Record.atLine 0) = records.map (Record.atLine 0)

theorem Record.atLine_moveDown (line count : Nat) (record : Record) :
    (record.moveDown count).atLine line = record.atLine line := by
  cases record <;> rfl

theorem AlikeButLines.refl (records : List Record) : AlikeButLines records records := rfl

theorem alikeButLines_moveDown (count : Nat) (records : List Record) :
    AlikeButLines records (records.map (Record.moveDown count)) := by
  rw [AlikeButLines, List.map_map]
  exact List.map_congr_left fun record _ => Record.atLine_moveDown 0 count record

theorem AlikeButLines.append {records others more moreOthers : List Record}
    (hrecords : AlikeButLines records others) (hmore : AlikeButLines more moreOthers) :
    AlikeButLines (records ++ more) (others ++ moreOthers) := by
  rw [AlikeButLines, List.map_append, List.map_append, hrecords, hmore]

namespace Document

variable {block stopped : Block} {line first : Line} {own after rest : List Line}

/-! ## Where a line can be inserted -/

/-- A line that says nothing before a request: it is blank, or a comment without a directive. -/
def IsSilent (line : Line) : Prop :=
  line.isBlank = true ∨ LineForm.isComment line.content = true ∧ line.directive? = none

/-- The places where a line can be inserted: `own` are the lines of the block that stand above it,
and `after` are all the lines below it. -/
inductive Admits (line : Line) : List Line → List Line → Prop
  | preamble {own after : List Line} (hown : ∀ other ∈ own, other.isPreamble = true)
      (hline : IsSilent line) : Admits line own after
  | headers {before done comments more after : List Line} {request : Line}
      {above below : List (Text × Text)} (hbefore : ∀ other ∈ before, other.isPreamble = true)
      (hrequest : request.isPreamble = false) (hdone : IsHeaderSection done above)
      (hcomments : ∀ comment ∈ comments, LineForm.isComment comment.content = true)
      (hmore : IsHeaderSection more below) (hbelow : below ≠ [])
      (hline : LineForm.isComment line.content = true) :
      Admits line (before ++ request :: (done ++ comments)) (more ++ after)

/-! ## Before a request -/

theorem readPreamble_atLine (line : Nat) (block : Block) (lines : List Line) :
    readPreamble (block.atLine line) lines =
      (readPreamble block lines).map (Prod.map (Block.atLine line) id) := by
  fun_induction readPreamble block lines with
  | case1 => rfl
  | case2 block first rest hblank ih => rw [readPreamble_blank _ first hblank, ih]
  | case3 block first rest _ comment hcomment hdirective ih =>
      rw [readPreamble_comment _ first hcomment hdirective, ih]
  | case4 block first rest _ comment hcomment marked hdirective directives hadd ih =>
      rw [readPreamble_directive (block.atLine line) first hcomment hdirective hadd, ← ih]
      rfl
  | case5 block first rest _ comment hcomment marked hdirective problem hadd =>
      rw [readPreamble_badDirective (block.atLine line) first hcomment hdirective hadd]
      rfl
  | case6 block first rest _ hcomment marked value hdeclaration declared ih =>
      rw [readPreamble_declaration _ first hcomment hdeclaration, ← ih]
      rfl
  | case7 block first rest hblank hcomment hdeclaration =>
      rw [readPreamble_stop _ first (Bool.not_eq_true _ ▸ hblank) hcomment hdeclaration]
      rfl

/-- A line that says nothing is passed without a change to the block. -/
theorem readPreamble_silent (hline : IsSilent line) (block : Block) (rest : List Line) :
    readPreamble block (line :: rest) = readPreamble block rest := by
  rcases hline with hblank | ⟨hcomment, hdirective⟩
  · exact readPreamble_blank block line hblank
  · obtain ⟨comment, hfound⟩ := Option.isSome_iff_exists.mp hcomment
    rw [Line.directive?, hfound] at hdirective
    exact readPreamble_comment block line hfound hdirective

/-! ## After a request line -/

theorem IsHeaderSection.moveDown {head : List Line} {headers : List (Text × Text)}
    (hsection : IsHeaderSection head headers) (count : Nat) :
    IsHeaderSection (head.map (Line.moveDown count)) headers := by
  induction hsection with
  | nil => exact .nil
  | cons hcomments hblanks hheader _ ih =>
      rw [List.map_append, List.map_append, List.map_cons]
      exact .cons (List.forall_mem_map.mpr hcomments) (List.forall_mem_map.mpr hblanks) hheader ih

theorem IsHeaderSection.append {head more : List Line} {headers others : List (Text × Text)}
    (hsection : IsHeaderSection head headers) (hmore : IsHeaderSection more others) :
    IsHeaderSection (head ++ more) (headers ++ others) := by
  induction hsection with
  | nil => exact hmore
  | cons hcomments hblanks hheader _ ih =>
      rw [List.append_assoc, List.cons_append]
      exact .cons hcomments hblanks hheader ih

/-- Comments in front of a header belong to its section. -/
theorem IsHeaderSection.comments_append {comments head : List Line}
    {headers : List (Text × Text)}
    (hcomments : ∀ comment ∈ comments, LineForm.isComment comment.content = true)
    (hsection : IsHeaderSection head headers) (hheaders : headers ≠ []) :
    IsHeaderSection (comments ++ head) headers := by
  cases hsection with
  | nil => exact absurd rfl hheaders
  | cons hmore hblanks hheader hrest =>
      rw [← List.append_assoc, ← List.append_assoc]
      exact .cons (List.forall_mem_append.mpr ⟨hcomments, hmore⟩) hblanks hheader hrest

theorem decodeBody_line {request decoded : Request} {line : Nat}
    (hdecode : decodeBody request line = .ok decoded) (other : Nat) :
    decodeBody request other = .ok decoded := by
  cases hbody : request.body with
  | none => rwa [decodeBody_missing request _ hbody] at hdecode ⊢
  | some body =>
      cases hjson : request.isJson && !hasPlaceholder body with
      | false => rwa [decodeBody_plain request _ hbody hjson] at hdecode ⊢
      | true =>
          cases hread : Json.read body with
          | ok value => rwa [decodeBody_json request _ hbody hjson hread] at hdecode ⊢
          | error fault =>
              rw [decodeBody_badJson request _ hbody hjson hread] at hdecode
              cases hdecode

/-- The same headers with the rest of the lines further down make the same request. -/
theorem readRequest_of_readHeaders {block : Block} {line : Line}
    {rest other behind left : List Line} {headers : List (Text × Text)} {request : Request}
    (hrest : readHeaders rest false rest = (headers, behind))
    (hother : readHeaders other false other = (headers, behind.map (Line.moveDown 1)))
    (hread : readRequest block line rest = .ok (request, left)) :
    readRequest block line other = .ok (request, left.map (Line.moveDown 1)) := by
  unfold readRequest at hread ⊢
  cases hline : LineForm.requestLine? line.content with
  | none =>
      rw [hline] at hread
      cases hread
  | some found =>
      rw [hline] at hread
      dsimp only at hread ⊢
      rw [hrest] at hread
      rw [hother]
      dsimp only at hread ⊢
      obtain ⟨decoded, hdecode, hpair⟩ := exists_of_map_eq_ok hread
      obtain ⟨rfl, rfl⟩ := Prod.mk.inj hpair
      rw [splitBody_moveDown, readBody_moveDown, decodeBody_line hdecode]
      rfl

/-! ## Whole blocks -/

theorem bareRecord_atLine (line : Nat) (block : Block) :
    (bareRecord (block.atLine line)).map (Record.atLine 0) =
      (bareRecord block).map (Record.atLine 0) := by
  have hempty : (block.atLine line).isEmpty = block.isEmpty := rfl
  rw [bareRecord, bareRecord, hempty]
  cases block.isEmpty <;> rfl

/-- A block that is read as before up to its request, with the rest further down. -/
theorem readRecord_of_readPreamble {first other : Line} {rest others left : List Line}
    {record : Option Record} (hread : readRecord first rest = .ok (record, left))
    (hother : readPreamble (Block.start other.number) (other :: others) =
      ((readPreamble (Block.start first.number) (first :: rest)).map
        (Prod.map (Block.atLine other.number) (List.map (Line.moveDown 1))))) :
    ∃ alike, readRecord other others = .ok (alike, left.map (Line.moveDown 1)) ∧
      alike.map (Record.atLine 0) = record.map (Record.atLine 0) := by
  obtain ⟨block, after, hpreamble, ⟨rfl, ⟨rfl, rfl⟩ | ⟨separator, rfl, hseparator⟩⟩ |
    ⟨line, behind, request, remaining, rfl, hseparator, hrequest, rfl, rfl⟩⟩ :=
      readRecord_eq_ok hread
  · rw [hpreamble] at hother
    exact ⟨_, readRecord_atEnd hother, bareRecord_atLine _ _⟩
  · rw [hpreamble] at hother
    exact ⟨_, readRecord_atSeparator hother hseparator, bareRecord_atLine _ _⟩
  · rw [hpreamble] at hother
    have hmoved := readRequest_moveDown 1 block line behind
    rw [hrequest] at hmoved
    refine ⟨some (.request (request.moveDown 1)), ?_, rfl⟩
    rw [readRecord_request hother hseparator]
    change (readRequest (block.moveDown 1) (line.moveDown 1)
      (behind.map (Line.moveDown 1))).map _ = _
    rw [hmoved]
    exact congrArg (fun left => Except.ok (some (Record.request (request.moveDown 1)), left))
      List.map_tail.symm

/-- A block into which a line is inserted before its request. -/
theorem readRecord_inserted_preamble {first other : Line} {rest others own after left : List Line}
    {record : Option Record} {line : Line} (hread : readRecord first rest = .ok (record, left))
    (hfirst : first :: rest = own ++ after)
    (hother : other :: others = own ++ line :: after.map (Line.moveDown 1))
    (hown : ∀ other ∈ own, other.isPreamble = true) (hline : IsSilent line) :
    ∃ alike, readRecord other others = .ok (alike, left.map (Line.moveDown 1)) ∧
      alike.map (Record.atLine 0) = record.map (Record.atLine 0) := by
  refine readRecord_of_readPreamble hread ?_
  obtain ⟨block, behind, hpreamble, -⟩ := readRecord_eq_ok hread
  rw [hfirst] at hpreamble
  obtain ⟨stopped, hpasses⟩ := exists_passes hown hpreamble
  rw [hpasses] at hpreamble
  have hmoved := readPreamble_moveDown 1 stopped after
  rw [hpreamble] at hmoved
  -- the block can begin at another line, if the inserted one stands at its top
  have hstart : Block.start other.number = (Block.start first.number).atLine other.number := rfl
  have hstopped : stopped = (stopped.moveDown 1).atLine stopped.line := rfl
  rw [hfirst, hother, hstart, readPreamble_atLine, hpasses, hpasses, hpreamble,
    readPreamble_silent hline, hstopped, readPreamble_atLine, hmoved]
  rfl

/-- A block into which a comment is inserted in front of a header. -/
theorem readRecord_inserted_headers {first : Line} {rest others before own more left : List Line}
    {record : Option Record} {request : Line} {headers : List (Text × Text)} {behind : List Line}
    (hread : readRecord first rest = .ok (record, left))
    (hfirst : first :: rest = before ++ request :: own)
    (hother : first :: others = before ++ request :: more)
    (hbefore : ∀ other ∈ before, other.isPreamble = true) (hrequest : request.isPreamble = false)
    (hseparator : request.isSeparator = false)
    (hown : readHeaders own false own = (headers, behind))
    (hmore : readHeaders more false more = (headers, behind.map (Line.moveDown 1))) :
    readRecord first others = .ok (record, left.map (Line.moveDown 1)) := by
  obtain ⟨block, after, hpreamble, -⟩ := readRecord_eq_ok hread
  rw [hfirst] at hpreamble
  obtain ⟨stopped, hpasses⟩ := exists_passes hbefore hpreamble
  have hhalts := halts_of_isPreamble_eq_false hrequest stopped
  have hstop (behind : List Line) :
      readPreamble (Block.start first.number) (before ++ request :: behind) =
        .ok (stopped, request :: behind) := (hpasses _).trans (hhalts behind)
  rw [readRecord_request (by rw [hfirst, hstop]) hseparator] at hread
  rw [readRecord_request (by rw [hother, hstop]) hseparator]
  obtain ⟨⟨found, remaining⟩, hfound, hpair⟩ := exists_of_map_eq_ok hread
  obtain ⟨rfl, rfl⟩ := Prod.mk.inj hpair
  rw [readRequest_of_readHeaders hown hmore hfound]
  exact congrArg (fun left => Except.ok (some (Record.request found), left)) List.map_tail.symm

/-- A block into which a line is inserted is read as the same record, and what is left over stands
one line further down. -/
theorem readRecord_inserted {first other line : Line} {rest others own after left : List Line}
    {record : Option Record} (hread : readRecord first rest = .ok (record, left))
    (hfirst : first :: rest = own ++ after)
    (hother : other :: others = own ++ line :: after.map (Line.moveDown 1))
    (hopen : ∀ other ∈ own, other.isSeparator = false) (hadmits : Admits line own after) :
    ∃ alike, readRecord other others = .ok (alike, left.map (Line.moveDown 1)) ∧
      alike.map (Record.atLine 0) = record.map (Record.atLine 0) := by
  cases hadmits with
  | preamble hown hline =>
      exact readRecord_inserted_preamble hread hfirst hother hown hline
  | @headers before done comments more after request above below hbefore hrequest hdone hcomments
      hmore hbelow hline =>
      have hsection : IsHeaderSection (done ++ (comments ++ more)) (above ++ below) :=
        hdone.append (hmore.comments_append hcomments hbelow)
      have hinserted : IsHeaderSection
          (done ++ (comments ++ (line :: more.map (Line.moveDown 1)))) (above ++ below) := by
        have hone : ∀ comment ∈ [line], LineForm.isComment comment.content = true :=
          List.forall_mem_singleton.mpr hline
        refine hdone.append (IsHeaderSection.comments_append hcomments ?_ hbelow)
        exact (hmore.moveDown 1).comments_append hone hbelow
      have hown := readHeaders_of_isHeaderSection hsection after
      have hmoved := readHeaders_of_isHeaderSection hinserted (after.map (Line.moveDown 1))
      rw [readHeaders_moveDown] at hmoved
      obtain rfl : first = other := by
        cases before with
        | nil => exact (List.cons.inj hfirst).1.trans (List.cons.inj hother).1.symm
        | cons => exact (List.cons.inj hfirst).1.trans (List.cons.inj hother).1.symm
      refine ⟨record, readRecord_inserted_headers hread ?_ ?_ hbefore hrequest
        (hopen request (by simp)) hown hmoved, rfl⟩
      · rw [hfirst]
        simp
      · rw [hother]
        simp

/-! ## Whole documents -/

theorem alikeButLines_toList {record alike : Option Record}
    (halike : alike.map (Record.atLine 0) = record.map (Record.atLine 0)) :
    AlikeButLines record.toList alike.toList := by
  cases record <;> cases alike <;> simp_all [AlikeButLines]

theorem readRecords_silent (hline : IsSilent line) : readRecords [line] = ([], none) := by
  have hpreamble := readPreamble_silent hline (Block.start line.number) []
  exact readRecords_cons_iff.mpr
    ⟨none, [], [], readRecord_atEnd hpreamble, readRecords.eq_1, rfl⟩

/-- The open block and all that follows it, with a line inserted. -/
theorem readRecords_inserted {line : Line} {own after : List Line} {records : List Record}
    (hread : readRecords (own ++ after) = (records, none))
    (hopen : ∀ other ∈ own, other.isSeparator = false) (hadmits : Admits line own after) :
    ∃ others, readRecords (own ++ line :: after.map (Line.moveDown 1)) = (others, none) ∧
      AlikeButLines records others := by
  cases hlines : own ++ after with
  | nil =>
      rw [hlines, readRecords] at hread
      obtain ⟨rfl, -⟩ := Prod.mk.inj hread
      cases hadmits with
      | preamble _ hline =>
          obtain ⟨rfl, rfl⟩ := List.append_eq_nil_iff.mp hlines
          exact ⟨[], readRecords_silent hline, .refl []⟩
      | headers => simp at hlines
  | cons first rest =>
      obtain ⟨other, others, hother⟩ : ∃ other others,
          own ++ line :: after.map (Line.moveDown 1) = other :: others :=
        List.exists_cons_of_ne_nil (List.append_ne_nil_of_right_ne_nil own (List.cons_ne_nil _ _))
      rw [hlines] at hread
      obtain ⟨record, left, behind, hrecord, hleft, rfl⟩ := readRecords_cons_iff.mp hread
      obtain ⟨alike, hinserted, halike⟩ :=
        readRecord_inserted hrecord hlines.symm hother.symm hopen hadmits
      have hmoved := readRecords_moveDown 1 left
      rw [hleft] at hmoved
      rw [hother, readRecords_cons_iff.mpr ⟨alike, _, _, hinserted, hmoved, rfl⟩]
      exact ⟨_, rfl, (alikeButLines_toList halike).append (alikeButLines_moveDown 1 behind)⟩

/-- A line inserted where the open block admits it, among all the lines of a document. -/
theorem readRecords_inserted_below {line : Line} {above below : List Line} {records : List Record}
    (hread : readRecords (above ++ below) = (records, none))
    (hadmits : Admits line (openLines above) below) :
    ∃ others, readRecords (above ++ line :: below.map (Line.moveDown 1)) = (others, none) ∧
      AlikeButLines records others := by
  have hopen : ∀ other ∈ openLines above, other.isSeparator = false :=
    fun other => isSeparator_of_mem_openLines
  rcases exists_openLines above with habove | ⟨outer, separator, hseparator, habove⟩
  · rw [habove] at hadmits hopen
    exact readRecords_inserted hread hopen hadmits
  · rw [habove, List.append_assoc, List.cons_append, readRecords_append_iff hseparator] at hread
    obtain ⟨first, second, hfirst, hsecond, rfl⟩ := hread
    obtain ⟨others, hinserted, halike⟩ := readRecords_inserted hsecond hopen hadmits
    rw [habove, List.append_assoc, List.cons_append]
    exact ⟨first ++ others,
      (readRecords_append_iff hseparator _).mpr ⟨first, others, hfirst, hinserted, rfl⟩,
      (AlikeButLines.refl first).append halike⟩

/-- A document into which a line is inserted where this is admitted can be read if it could be read
before, and its records differ in nothing but their lines. -/
theorem read_inserted {text other : Text} {above below : List Text} {raw : Text}
    {records : List Record} (htext : Text.lines text = above ++ below)
    (hother : Text.lines other = above ++ raw :: below)
    (hread : Document.read text = .ok records)
    (hadmits : Admits ⟨above.length + 1, raw⟩ (openLines (Line.numberFrom 1 above))
      (Line.numberFrom (above.length + 1) below)) :
    ∃ others, Document.read other = .ok others ∧ AlikeButLines records others := by
  have hlines : readRecords (Line.numberFrom 1 above ++
      Line.numberFrom (above.length + 1) below) = (records, none) := by
    rw [Nat.add_comm, ← Line.numberFrom_append, ← htext, ← readUpToFault_eq, readUpToFault]
    exact readRecords_of_read hread
  obtain ⟨others, hinserted, halike⟩ := readRecords_inserted_below hlines hadmits
  refine ⟨others, ?_, halike⟩
  rw [← Line.numberFrom_add] at hinserted
  rw [Document.read, readUpToFault_eq, hother, Line.numberFrom_append, Line.numberFrom,
    Nat.add_comm 1, hinserted]

/-- A directive behind a comment in the header section, where it says nothing, and a blank line
between a separator and the end. -/
theorem read_inserted_directive :
    ∃ records directed blank, Document.read "GET /a\n# one\nx: 1\n###" = .ok records ∧
      Document.read "GET /a\n# one\n# @name n\nx: 1\n###" = .ok directed ∧
      Document.read "GET /a\n# one\nx: 1\n###\n " = .ok blank ∧
      AlikeButLines records directed ∧ AlikeButLines records blank := by
  have hread := read_of_readRecord
    (by decide : Line.ofText "GET /a\n# one\nx: 1\n###" =
      [⟨1, "GET /a"⟩, ⟨2, "# one"⟩, ⟨3, "x: 1"⟩, ⟨4, "###"⟩]) rfl
  have hheaders : Admits ⟨3, "# @name n"⟩
      ([] ++ ⟨1, "GET /a"⟩ :: ([] ++ [⟨2, "# one"⟩])) ([⟨3, "x: 1"⟩] ++ [⟨4, "###"⟩]) :=
    .headers (List.forall_mem_nil _) (by decide) .nil (List.forall_mem_singleton.mpr (by decide))
      (.cons (List.forall_mem_nil _) (List.forall_mem_nil _) rfl .nil) (List.cons_ne_nil _ _)
      (by decide)
  have hpreamble : Admits ⟨5, " "⟩ [] [] :=
    .preamble (List.forall_mem_nil _) (.inl (by decide))
  obtain ⟨directed, hdirected, halike⟩ := read_inserted
    (by decide : Text.lines "GET /a\n# one\nx: 1\n###" =
      ["GET /a".toList, "# one".toList] ++ ["x: 1".toList, "###".toList])
    (by decide : Text.lines "GET /a\n# one\n# @name n\nx: 1\n###" = _) hread hheaders
  obtain ⟨blank, hblank, halikeBlank⟩ := read_inserted
    (by decide : Text.lines "GET /a\n# one\nx: 1\n###" =
      ["GET /a".toList, "# one".toList, "x: 1".toList, "###".toList] ++ [])
    (by decide : Text.lines "GET /a\n# one\nx: 1\n###\n " = _) hread hpreamble
  exact ⟨_, directed, blank, hread, hdirected, hblank, halike, halikeBlank⟩

end Document

end HttpScript
