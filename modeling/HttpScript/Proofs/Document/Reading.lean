import HttpScript.Document.Reader

/-!
# One line at a time

What the reader of a block does at one line, by what the line is.  A blank line is neither a comment
nor a declaration nor a header, so these cases need no word about blankness.
-/

namespace HttpScript.Document

variable (block : Block) (line : Line) {rest start : List Line} {seenBlank : Bool}

private theorem isBlank_eq_false {Found : Type} {find : Text → Option Found} {found : Found}
    {line : Line} (hnil : find [] = none) (hfound : find line.content = some found) :
    line.isBlank = false := by
  rw [Line.isBlank, List.isEmpty_eq_false_iff]
  intro hcontent
  rw [hcontent, hnil] at hfound
  exact nomatch hfound

/-! ## Before the request -/

theorem readPreamble_blank (hblank : line.isBlank = true) :
    readPreamble block (line :: rest) = readPreamble block rest := by
  rw [readPreamble, if_pos hblank]

theorem readPreamble_comment {comment : Text}
    (hcomment : LineForm.comment? line.content = some comment)
    (hdirective : LineForm.directive? comment = none) :
    readPreamble block (line :: rest) = readPreamble block rest := by
  rw [readPreamble, isBlank_eq_false rfl hcomment, hcomment]
  simp only [hdirective, Bool.false_eq_true, if_false]

theorem readPreamble_directive {comment : Text} {marked : LineForm.Marked} {directives : Directives}
    (hcomment : LineForm.comment? line.content = some comment)
    (hdirective : LineForm.directive? comment = some marked)
    (hadd : block.directives.add marked.name marked.value? marked.isGlobal = .ok directives) :
    readPreamble block (line :: rest) = readPreamble { block with directives } rest := by
  rw [readPreamble, isBlank_eq_false rfl hcomment, hcomment]
  simp only [hdirective, hadd, Bool.false_eq_true, if_false]

theorem readPreamble_badDirective {comment : Text} {marked : LineForm.Marked}
    {problem : DirectiveProblem} (hcomment : LineForm.comment? line.content = some comment)
    (hdirective : LineForm.directive? comment = some marked)
    (hadd : block.directives.add marked.name marked.value? marked.isGlobal = .error problem) :
    readPreamble block (line :: rest) =
      .error ⟨.directive problem, line.number, line.content⟩ := by
  rw [readPreamble, isBlank_eq_false rfl hcomment, hcomment]
  simp only [hdirective, hadd, Bool.false_eq_true, if_false]

theorem readPreamble_declaration {marked : LineForm.Marked} {value : Option Text}
    (hcomment : LineForm.comment? line.content = none)
    (hdeclaration : LineForm.declaration? line.content = some (marked, value)) :
    readPreamble block (line :: rest) =
      readPreamble
        { block with declared := Table.set block.declared marked.name ⟨value, marked.isGlobal⟩ }
        rest := by
  rw [readPreamble, isBlank_eq_false rfl hdeclaration, hcomment]
  simp only [hdeclaration, Bool.false_eq_true, if_false]

theorem readPreamble_stop (hblank : line.isBlank = false)
    (hcomment : LineForm.comment? line.content = none)
    (hdeclaration : LineForm.declaration? line.content = none) :
    readPreamble block (line :: rest) = .ok (block, line :: rest) := by
  rw [readPreamble, hblank, hcomment]
  simp only [hdeclaration, Bool.false_eq_true, if_false]

/-- What every directive and every declaration of the lines keeps of a block holds of the block with
which the reader stops. -/
theorem readPreamble_preserves (holds : Block → Prop) {block stopped : Block}
    {lines left : List Line} (hblock : holds block)
    (hdirective : ∀ (block : Block) (marked : LineForm.Marked) (directives : Directives),
      block.directives.add marked.name marked.value? marked.isGlobal = .ok directives →
        holds block → holds { block with directives })
    (hdeclaration : ∀ line ∈ lines, ∀ (block : Block) (marked : LineForm.Marked)
      (value : Option Text), LineForm.declaration? line.content = some (marked, value) →
        holds block → holds
          { block with declared := Table.set block.declared marked.name ⟨value, marked.isGlobal⟩ })
    (hread : readPreamble block lines = .ok (stopped, left)) : holds stopped := by
  fun_induction readPreamble block lines with
  | case1 block => cases hread; exact hblock
  | case2 block line rest _ ih =>
      exact ih hblock (fun other hother => hdeclaration other (List.mem_cons_of_mem line hother))
        hread
  | case3 block line rest _ comment _ _ ih =>
      exact ih hblock (fun other hother => hdeclaration other (List.mem_cons_of_mem line hother))
        hread
  | case4 block line rest _ comment _ marked _ directives hadd ih =>
      exact ih (hdirective block marked directives hadd hblock)
        (fun other hother => hdeclaration other (List.mem_cons_of_mem line hother)) hread
  | case5 => cases hread
  | case6 block line rest _ _ marked value hfound declared ih =>
      exact ih (hdeclaration line List.mem_cons_self block marked value hfound hblock)
        (fun other hother => hdeclaration other (List.mem_cons_of_mem line hother)) hread
  | case7 => cases hread; exact hblock

/-! ## After the request line -/

theorem readHeaders_blank (hblank : line.isBlank = true) :
    readHeaders start seenBlank (line :: rest) = readHeaders start true rest := by
  rw [readHeaders, if_pos hblank]

theorem readHeaders_comment (hcomment : LineForm.isComment line.content = true) :
    readHeaders start false (line :: rest) = readHeaders start false rest := by
  obtain ⟨comment, hfound⟩ := Option.isSome_iff_exists.mp hcomment
  rw [readHeaders, isBlank_eq_false rfl hfound, hcomment]
  rfl

theorem readHeaders_header {header : Text × Text}
    (hcomment : LineForm.isComment line.content = false)
    (hheader : LineForm.header? line.content = some header) :
    readHeaders start seenBlank (line :: rest) =
      (header :: (readHeaders rest false rest).1, (readHeaders rest false rest).2) := by
  rw [readHeaders, isBlank_eq_false rfl hheader, hcomment, hheader]
  simp only [Bool.and_false, Bool.false_eq_true, if_false]

theorem readHeaders_stop (hblank : line.isBlank = false)
    (hcomment : (!seenBlank && LineForm.isComment line.content) = false)
    (hheader : LineForm.header? line.content = none) :
    readHeaders start seenBlank (line :: rest) = ([], start) := by
  rw [readHeaders, hblank, hcomment, hheader]
  rfl

/-! ## The body -/

section Body

variable (request : Request) (first : Nat) {body : Text}

theorem decodeBody_missing (hbody : request.body = none) :
    decodeBody request first = .ok request := by
  rw [decodeBody, hbody]

theorem decodeBody_plain (hbody : request.body = some body)
    (hjson : (request.isJson && !hasPlaceholder body) = false) :
    decodeBody request first = .ok request := by
  simp only [decodeBody, hbody, hjson, Bool.false_eq_true, if_false]

theorem decodeBody_json {value : Json} (hbody : request.body = some body)
    (hjson : (request.isJson && !hasPlaceholder body) = true) (hread : Json.read body = .ok value) :
    decodeBody request first = .ok { request with bodyJson := some value } := by
  simp only [decodeBody, hbody, hjson, hread, if_true]

theorem decodeBody_badJson {fault : Json.ReadFault} (hbody : request.body = some body)
    (hjson : (request.isJson && !hasPlaceholder body) = true)
    (hread : Json.read body = .error fault) :
    decodeBody request first =
      .error ⟨.badJsonBody fault.problem, first + fault.line body - 1, body⟩ := by
  simp only [decodeBody, hbody, hjson, hread, if_true]

end Body

/-! ## A whole block -/

section Whole

variable {first : Line} {block : Block}

theorem readRecord_fault {fault : DocumentFault}
    (hpreamble : readPreamble (Block.start first.number) (first :: rest) = .error fault) :
    readRecord first rest = .error fault := by
  rw [readRecord, hpreamble]

theorem readRecord_atEnd
    (hpreamble : readPreamble (Block.start first.number) (first :: rest) = .ok (block, [])) :
    readRecord first rest = .ok (bareRecord block, []) := by
  rw [readRecord, hpreamble]

theorem readRecord_atSeparator {line : Line} {left : List Line}
    (hpreamble : readPreamble (Block.start first.number) (first :: rest) =
      .ok (block, line :: left))
    (hseparator : line.isSeparator = true) :
    readRecord first rest = .ok (bareRecord block, left) := by
  simp only [readRecord, hpreamble, hseparator, if_true]

theorem readRecord_request {line : Line} {left : List Line}
    (hpreamble : readPreamble (Block.start first.number) (first :: rest) =
      .ok (block, line :: left))
    (hseparator : line.isSeparator = false) :
    readRecord first rest =
      (readRequest block line left).map fun read => (some (.request read.1), read.2.tail) := by
  simp only [readRecord, hpreamble, hseparator, Bool.false_eq_true, if_false]

/-- What a block comes to that is read without a fault: it ends before a request, with the lines or
at a separator, or a request was read in it. -/
theorem readRecord_eq_ok {record : Option Record} {left : List Line}
    (hread : readRecord first rest = .ok (record, left)) :
    ∃ block after, readPreamble (Block.start first.number) (first :: rest) = .ok (block, after) ∧
      (record = bareRecord block ∧ (after = [] ∧ left = [] ∨
          ∃ separator, after = separator :: left ∧ separator.isSeparator = true) ∨
        ∃ line others request remaining, after = line :: others ∧ line.isSeparator = false ∧
          readRequest block line others = .ok (request, remaining) ∧
          record = some (.request request) ∧ left = remaining.tail) := by
  cases hpreamble : readPreamble (Block.start first.number) (first :: rest) with
  | error fault =>
      rw [readRecord_fault hpreamble] at hread
      cases hread
  | ok stopped =>
      obtain ⟨block, after⟩ := stopped
      refine ⟨block, after, rfl, ?_⟩
      cases after with
      | nil =>
          rw [readRecord_atEnd hpreamble] at hread
          obtain ⟨rfl, rfl⟩ := Prod.mk.inj (Except.ok.inj hread)
          exact .inl ⟨rfl, .inl ⟨rfl, rfl⟩⟩
      | cons line others =>
          cases hseparator : line.isSeparator with
          | true =>
              rw [readRecord_atSeparator hpreamble hseparator] at hread
              obtain ⟨rfl, rfl⟩ := Prod.mk.inj (Except.ok.inj hread)
              exact .inl ⟨rfl, .inr ⟨line, rfl, hseparator⟩⟩
          | false =>
              rw [readRecord_request hpreamble hseparator] at hread
              obtain ⟨⟨request, remaining⟩, hrequest, hpair⟩ := exists_of_map_eq_ok hread
              obtain ⟨rfl, rfl⟩ := Prod.mk.inj hpair
              exact .inr ⟨line, others, request, remaining, rfl, hseparator, hrequest, rfl, rfl⟩

theorem readRecords_cons (first : Line) (rest : List Line) :
    readRecords (first :: rest) =
      match readRecord first rest with
      | .error fault => ([], some fault)
      | .ok (record, left) =>
          (record.toList ++ (readRecords left).1, (readRecords left).2) := by
  rw [readRecords]
  split <;> simp only [*]

/-- Lines are read without a fault if the first block is, and then the rest. -/
theorem readRecords_cons_iff {first : Line} {rest : List Line} {records : List Record} :
    readRecords (first :: rest) = (records, none) ↔
      ∃ record left others, readRecord first rest = .ok (record, left) ∧
        readRecords left = (others, none) ∧ record.toList ++ others = records := by
  rw [readRecords_cons]
  constructor
  · intro hread
    cases hrecord : readRecord first rest with
    | error fault =>
        rw [hrecord] at hread
        cases hread
    | ok found =>
        obtain ⟨record, left⟩ := found
        rw [hrecord] at hread
        obtain ⟨hrecords, hnone⟩ := Prod.mk.inj hread
        exact ⟨record, left, _, rfl, Prod.ext rfl hnone, hrecords⟩
  · rintro ⟨record, left, others, hrecord, hothers, rfl⟩
    rw [hrecord]
    dsimp only
    rw [hothers]

/-- A document is read if there is no fault in its lines. -/
theorem readRecords_of_read {text : Text} {records : List Record}
    (hread : Document.read text = .ok records) :
    readRecords (Line.ofText text) = (records, none) := by
  unfold Document.read readUpToFault at hread
  rcases hrecords : readRecords (Line.ofText text) with ⟨found, _ | fault⟩
  · rw [hrecords] at hread
    rw [Except.ok.inj hread]
  · rw [hrecords] at hread
    cases hread

/-- A document of one block. -/
theorem read_of_readRecord {text : Text} {record : Record}
    (hlines : Line.ofText text = first :: rest)
    (hrecord : readRecord first rest = .ok (some record, [])) :
    Document.read text = .ok [record] := by
  rw [Document.read, readUpToFault, hlines, readRecords_cons, hrecord]
  simp [readRecords]

end Whole

end HttpScript.Document
