import HttpScript.Proofs.Document.Reading

/-!
# Reading lines that stand further down

Line numbers are carried along and never looked at while lines are read: they only come back as the
line of a record or of a fault.  So lines that stand further down are read as before, with the
distance added to every line that is reported.
-/

namespace HttpScript

/-! ## Moving down -/

/-- The same line, a number of lines further down. -/
def Line.moveDown (count : Nat) (line : Line) : Line :=
  { line with number := line.number + count }

/-- The same block, a number of lines further down. -/
def Block.moveDown (count : Nat) (block : Block) : Block :=
  { block with line := block.line + count }

/-- The same request, a number of lines further down. -/
def Request.moveDown (count : Nat) (request : Request) : Request :=
  { request with line := request.line + count }

/-- The same record, a number of lines further down. -/
def Record.moveDown (count : Nat) : Record → Record
  | .bare inner => .bare (inner.moveDown count)
  | .request inner => .request (inner.moveDown count)

/-- The same fault, a number of lines further down. -/
def DocumentFault.moveDown (count : Nat) (fault : DocumentFault) : DocumentFault :=
  { fault with line := fault.line + count }

namespace Line

@[simp] theorem moveDown_content (count : Nat) (line : Line) :
    (line.moveDown count).content = line.content := rfl

@[simp] theorem moveDown_isBlank (count : Nat) (line : Line) :
    (line.moveDown count).isBlank = line.isBlank := rfl

theorem numberFrom_append (number : Nat) (first second : List Text) :
    numberFrom number (first ++ second) =
      numberFrom number first ++ numberFrom (number + first.length) second := by
  induction first generalizing number with
  | nil => rfl
  | cons raw rest ih =>
      simp only [List.cons_append, numberFrom, List.length_cons, ih]
      rw [Nat.add_assoc, Nat.add_comm 1]

theorem numberFrom_add (number count : Nat) (raws : List Text) :
    numberFrom (number + count) raws = (numberFrom number raws).map (moveDown count) := by
  induction raws generalizing number with
  | nil => rfl
  | cons raw rest ih =>
      rw [numberFrom, numberFrom, List.map_cons, ← ih, Nat.add_right_comm]
      rfl

end Line

namespace Document

/-! ## The parts of a block -/

theorem readPreamble_moveDown (count : Nat) (block : Block) (lines : List Line) :
    readPreamble (block.moveDown count) (lines.map (Line.moveDown count)) =
      ((readPreamble block lines).mapError (DocumentFault.moveDown count)).map
        (Prod.map (Block.moveDown count) (List.map (Line.moveDown count))) := by
  -- whatever is looked at in a line stays the same, so the same cases come up again
  fun_induction readPreamble block lines with
  | case1 => rfl
  | case2 block line rest hblank ih =>
      rw [List.map_cons, readPreamble_blank _ (line.moveDown count) hblank, ih]
  | case3 block line rest _ comment hcomment hdirective ih =>
      rw [List.map_cons,
        readPreamble_comment _ (line.moveDown count) hcomment hdirective, ih]
  | case4 block line rest _ comment hcomment marked hdirective directives hadd ih =>
      rw [List.map_cons, readPreamble_directive (block.moveDown count) (line.moveDown count)
        hcomment hdirective hadd, ← ih]
      rfl
  | case5 block line rest _ comment hcomment marked hdirective problem hadd =>
      rw [List.map_cons, readPreamble_badDirective (block.moveDown count) (line.moveDown count)
        hcomment hdirective hadd]
      rfl
  | case6 block line rest _ hcomment marked value hdeclaration declared ih =>
      rw [List.map_cons,
        readPreamble_declaration _ (line.moveDown count) hcomment hdeclaration, ← ih]
      rfl
  | case7 block line rest hblank hcomment hdeclaration =>
      rw [List.map_cons, readPreamble_stop _ (line.moveDown count)
        (Bool.not_eq_true _ ▸ hblank) hcomment hdeclaration]
      rfl

theorem readHeaders_moveDown (count : Nat) (start : List Line) (seenBlank : Bool)
    (lines : List Line) :
    readHeaders (start.map (Line.moveDown count)) seenBlank (lines.map (Line.moveDown count)) =
      ((readHeaders start seenBlank lines).1,
        (readHeaders start seenBlank lines).2.map (Line.moveDown count)) := by
  fun_induction readHeaders start seenBlank lines with
  | case1 => rfl
  | case2 start seenBlank line rest hblank ih =>
      rw [List.map_cons, readHeaders_blank (line.moveDown count) hblank, ih]
  | case3 start seenBlank line rest _ hcomment ih =>
      obtain ⟨hseen, hcomment⟩ := Bool.and_eq_true_iff.mp hcomment
      rw [Bool.not_eq_true'] at hseen
      rw [List.map_cons, hseen, readHeaders_comment (line.moveDown count) hcomment, ih]
  | case4 start seenBlank line rest hblank hcomment header hheader headers left hread ih =>
      rw [hread] at ih
      rw [List.map_cons, readHeaders, Line.moveDown_isBlank, Line.moveDown_content, if_neg hblank,
        if_neg hcomment, hheader]
      dsimp only
      rw [ih]
  | case5 start seenBlank line rest hblank hcomment hheader =>
      rw [List.map_cons, readHeaders_stop (line.moveDown count) (Bool.not_eq_true _ ▸ hblank)
        (Bool.not_eq_true _ ▸ hcomment) hheader]

@[simp] theorem readBody_moveDown (count : Nat) (lines : List Line) :
    readBody (lines.map (Line.moveDown count)) = readBody lines := by
  have hraw : (lines.map (Line.moveDown count)).map Line.raw = lines.map Line.raw := by
    rw [List.map_map]
    rfl
  have hcomments : onlyComments (lines.map (Line.moveDown count)) = onlyComments lines := by
    rw [onlyComments, List.all_map]
    rfl
  rw [readBody, bodyText, hraw, hcomments]
  rfl

theorem decodeBody_moveDown (count first : Nat) (request : Request) :
    decodeBody (request.moveDown count) (first + count) =
      ((decodeBody request first).mapError (DocumentFault.moveDown count)).map
        (Request.moveDown count) := by
  cases hbody : request.body with
  | none =>
      rw [decodeBody_missing (request.moveDown count) _ hbody, decodeBody_missing request _ hbody]
      rfl
  | some body =>
      cases hjson : request.isJson && !hasPlaceholder body with
      | false =>
          rw [decodeBody_plain (request.moveDown count) _ hbody hjson,
            decodeBody_plain request _ hbody hjson]
          rfl
      | true =>
          cases hread : Json.read body with
          | ok value =>
              rw [decodeBody_json (request.moveDown count) _ hbody hjson hread,
                decodeBody_json request _ hbody hjson hread]
              rfl
          | error fault =>
              -- the line of a fault in a body is counted from one, so nothing is cut off
              have hline : first + count + fault.line body - 1 =
                  first + fault.line body - 1 + count := by
                unfold Json.ReadFault.line
                omega
              rw [decodeBody_badJson (request.moveDown count) _ hbody hjson hread,
                decodeBody_badJson request _ hbody hjson hread, hline]
              rfl

@[simp] theorem splitBody_moveDown (count : Nat) (lines : List Line) :
    splitBody (lines.map (Line.moveDown count)) =
      ((splitBody lines).1.map (Line.moveDown count),
        (splitBody lines).2.map (Line.moveDown count)) := by
  rw [splitBody, List.dropWhile_map, List.takeWhile_map, List.dropWhile_map]
  rfl

theorem readRequest_moveDown (count : Nat) (block : Block) (line : Line) (rest : List Line) :
    readRequest (block.moveDown count) (line.moveDown count) (rest.map (Line.moveDown count)) =
      ((readRequest block line rest).mapError (DocumentFault.moveDown count)).map
        (Prod.map (Request.moveDown count) (List.map (Line.moveDown count))) := by
  rw [readRequest, readRequest, Line.moveDown_content]
  cases LineForm.requestLine? line.content with
  | none => rfl
  | some found =>
      obtain ⟨method, url⟩ := found
      dsimp only
      rw [readHeaders_moveDown, splitBody_moveDown, readBody_moveDown]
      obtain ⟨headers, afterHeaders⟩ := readHeaders rest false rest
      obtain ⟨bodyLines, left⟩ := splitBody afterHeaders
      let request : Request :=
        { line := line.number, declared := block.declared, directives := block.directives
          method, url, headers, body := readBody bodyLines, bodyJson := none }
      have hdecode : decodeBody (request.moveDown count)
          (((bodyLines.map (Line.moveDown count)).head?.map Line.number).getD 0) =
          ((decodeBody request ((bodyLines.head?.map Line.number).getD 0)).mapError
            (DocumentFault.moveDown count)).map (Request.moveDown count) := by
        cases bodyLines with
        | nil => rfl
        | cons first more => exact decodeBody_moveDown count first.number request
      refine (congrArg (Except.map _) hdecode).trans ?_
      cases decodeBody request ((bodyLines.head?.map Line.number).getD 0) <;> rfl

@[simp] theorem bareRecord_moveDown (count : Nat) (block : Block) :
    bareRecord (block.moveDown count) = (bareRecord block).map (Record.moveDown count) := by
  have hempty : (block.moveDown count).isEmpty = block.isEmpty := rfl
  rw [bareRecord, bareRecord, hempty]
  cases block.isEmpty <;> rfl

/-! ## Whole blocks -/

theorem readRecord_moveDown (count : Nat) (first : Line) (rest : List Line) :
    readRecord (first.moveDown count) (rest.map (Line.moveDown count)) =
      ((readRecord first rest).mapError (DocumentFault.moveDown count)).map
        (Prod.map (Option.map (Record.moveDown count)) (List.map (Line.moveDown count))) := by
  have hmoved := readPreamble_moveDown count (Block.start first.number) (first :: rest)
  match hpreamble : readPreamble (Block.start first.number) (first :: rest) with
  | .error fault =>
      rw [hpreamble] at hmoved
      rw [readRecord_fault hpreamble, readRecord_fault hmoved]
      rfl
  | .ok (block, []) =>
      rw [hpreamble] at hmoved
      rw [readRecord_atEnd hpreamble, readRecord_atEnd hmoved, bareRecord_moveDown]
      rfl
  | .ok (block, line :: left) =>
      rw [hpreamble] at hmoved
      cases hseparator : line.isSeparator with
      | true =>
          rw [readRecord_atSeparator hpreamble hseparator,
            readRecord_atSeparator hmoved hseparator, bareRecord_moveDown]
          rfl
      | false =>
          rw [readRecord_request hpreamble hseparator, readRecord_request hmoved hseparator,
            readRequest_moveDown]
          cases readRequest block line left with
          | error fault => rfl
          | ok read =>
              exact congrArg
                (fun left => Except.ok (some (Record.request (read.1.moveDown count)), left))
                List.map_tail.symm

theorem readRecords_moveDown (count : Nat) (lines : List Line) :
    readRecords (lines.map (Line.moveDown count)) =
      ((readRecords lines).1.map (Record.moveDown count),
        (readRecords lines).2.map (DocumentFault.moveDown count)) := by
  fun_induction readRecords lines with
  | case1 => rw [List.map_nil, readRecords]; rfl
  | case2 first rest fault hread =>
      rw [List.map_cons, readRecords_cons, readRecord_moveDown, hread]
      rfl
  | case3 first rest record left hread hleft records fault hrecords ih =>
      rw [hrecords] at ih
      rw [List.map_cons, readRecords_cons, readRecord_moveDown, hread]
      change (Option.toList _ ++ (readRecords (left.map (Line.moveDown count))).1,
        (readRecords (left.map (Line.moveDown count))).2) = _
      rw [ih, List.map_append]
      cases record <;> rfl

end Document

end HttpScript
