import HttpScript.Document.Block

/-!
# Reading documents

A document is read in one pass over its lines.  Each step reads one block: its comments and
declarations, the request line, the headers, the body, and the separator that ends it.  The first
fault in the document is the one that is reported.

Comments are part of the header section as long as no blank line came between; after a blank line a
comment begins the body, unless a header still follows the blank lines.
-/

namespace HttpScript

/-- Why a line of a document cannot be read. -/
inductive DocumentProblem
  | requestLineExpected (found : Text)
  | directive (problem : DirectiveProblem)
  | badJsonBody (problem : Json.ReadProblem)

/-- The wording of a problem. -/
def DocumentProblem.message : DocumentProblem → Text
  | .requestLineExpected found => "method + url expected but found: " ++ found
  | .directive problem => problem.message
  | .badJsonBody problem => "invalid JSON body: " ++ problem.message

/-- A problem, its line and the text that is at fault. -/
structure DocumentFault where
  problem : DocumentProblem
  line : Nat
  text : Text

/-- Whether a fault is reported with its line, or else ends the reading on the spot. -/
def DocumentFault.isReported (fault : DocumentFault) : Bool :=
  match fault.problem with
  | .directive problem => problem.isReported
  | .requestLineExpected _ | .badJsonBody _ => true

/-- The line and the cause of a fault. -/
def DocumentFault.message (fault : DocumentFault) : Text :=
  "(line: " ++ Text.ofNat fault.line ++ ") " ++ fault.problem.message

/-- Whether a line separates two blocks. -/
def Line.isSeparator (line : Line) : Bool :=
  LineForm.isSeparator line.content

namespace Document

/-! ## Before the request -/

/-- Reads blank lines, comments and declarations, and stops at the first line that is none of
these. -/
def readPreamble (block : Block) : List Line → Except DocumentFault (Block × List Line)
  | [] => .ok (block, [])
  | line :: rest =>
      if line.isBlank then readPreamble block rest
      else match LineForm.comment? line.content with
        | some comment =>
            match LineForm.directive? comment with
            | none => readPreamble block rest
            | some marked =>
                match block.directives.add marked.name marked.value? marked.isGlobal with
                | .ok directives => readPreamble { block with directives } rest
                | .error problem => .error ⟨.directive problem, line.number, line.content⟩
        | none =>
            match LineForm.declaration? line.content with
            | some (marked, value) =>
                let declared :=
                  Table.set block.declared marked.name ⟨value, marked.isGlobal⟩
                readPreamble { block with declared } rest
            | none => .ok (block, line :: rest)

/-! ## Headers and body -/

/-- Reads headers.  The lines after the last header are `start`; whether a blank line came since is
`seenBlank`.  The lines from the end of the header section on are left over. -/
def readHeaders (start : List Line) (seenBlank : Bool) :
    List Line → List (Text × Text) × List Line
  | [] => ([], start)
  | line :: rest =>
      if line.isBlank then readHeaders start true rest
      else if !seenBlank && LineForm.isComment line.content then readHeaders start false rest
      else match LineForm.header? line.content with
        | some header =>
            let (headers, left) := readHeaders rest false rest
            (header :: headers, left)
        | none => ([], start)

/-- The text of a body: its lines, trimmed as a whole. -/
def bodyText (lines : List Line) : Text :=
  Text.trim (Text.join ['\n'] (lines.map Line.raw))

/-- Whether every line is blank or a comment. -/
def onlyComments (lines : List Line) : Bool :=
  lines.all fun line => line.isBlank || LineForm.isComment line.content

/-- The body of a request; what holds comments only is none. -/
def readBody (lines : List Line) : Option Text :=
  let text := bodyText lines
  if text.isEmpty || onlyComments lines then none else some text

/-- Whether a text may hold a placeholder. -/
def hasPlaceholder (text : Text) : Bool :=
  Text.occursIn "\x7b\x7b" text

/-- Decodes the body of a request that is sent as JSON; `line` is where the body begins. -/
def decodeBody (request : Request) (line : Nat) : Except DocumentFault Request :=
  match request.body with
  | none => .ok request
  | some body =>
      if request.isJson && !hasPlaceholder body then
        match Json.read body with
        | .ok value => .ok { request with bodyJson := some value }
        | .error fault => .error ⟨.badJsonBody fault.problem, line + fault.line body - 1, body⟩
      else .ok request

/-- The lines of a body, from the first one that is not blank to the next separator, and the lines
from there on. -/
def splitBody (lines : List Line) : List Line × List Line :=
  let lines := lines.dropWhile Line.isBlank
  (lines.takeWhile fun line => !line.isSeparator, lines.dropWhile fun line => !line.isSeparator)

/-- Reads a request: its line, then its headers and its body.  The lines from the separator on are
left over. -/
def readRequest (block : Block) (line : Line) (rest : List Line) :
    Except DocumentFault (Request × List Line) :=
  match LineForm.requestLine? line.content with
  | none => .error ⟨.requestLineExpected line.content, line.number, line.content⟩
  | some (method, url) =>
      let (headers, left) := readHeaders rest false rest
      let (bodyLines, left) := splitBody left
      let request : Request :=
        { line := line.number, declared := block.declared, directives := block.directives
          method, url, headers, body := readBody bodyLines, bodyJson := none }
      (decodeBody request ((bodyLines.head?.map Line.number).getD 0)).map fun request =>
        (request, left)

/-! ## Documents -/

/-- What a block without a request amounts to; one in which nothing is declared leaves no
record. -/
def bareRecord (block : Block) : Option Record :=
  if block.isEmpty then none else some (.bare block)

/-- Reads a block, from its first line on, and gives the lines after its separator. -/
def readRecord (first : Line) (rest : List Line) :
    Except DocumentFault (Option Record × List Line) :=
  match readPreamble (Block.start first.number) (first :: rest) with
  | .error fault => .error fault
  | .ok (block, []) => .ok (bareRecord block, [])
  | .ok (block, line :: left) =>
      if line.isSeparator then .ok (bareRecord block, left)
      else (readRequest block line left).map fun (request, left) =>
        (some (.request request), left.tail)

/-! What is left over stands at the end of what was read, so that the pass ends. -/

theorem readPreamble_suffix {block stopped : Block} {lines left : List Line}
    (hread : readPreamble block lines = .ok (stopped, left)) : left <:+ lines := by
  fun_induction readPreamble block lines with
  | case1 => cases hread; exact List.suffix_refl _
  | case2 block line rest _ ih => exact (ih hread).trans (List.suffix_cons line rest)
  | case3 block line rest _ comment _ _ ih => exact (ih hread).trans (List.suffix_cons line rest)
  | case4 block line rest _ comment _ marked _ directives _ ih =>
      exact (ih hread).trans (List.suffix_cons line rest)
  | case5 => exact nomatch hread
  | case6 block line rest _ _ marked value _ declared ih =>
      exact (ih hread).trans (List.suffix_cons line rest)
  | case7 => cases hread; exact List.suffix_refl _

theorem readHeaders_suffix {start lines : List Line} (seenBlank : Bool) (hlines : lines <:+ start) :
    (readHeaders start seenBlank lines).2 <:+ start := by
  fun_induction readHeaders start seenBlank lines with
  | case1 => exact List.suffix_refl _
  | case2 start _ line rest _ ih => exact ih ((List.suffix_cons line rest).trans hlines)
  | case3 start _ line rest _ _ ih => exact ih ((List.suffix_cons line rest).trans hlines)
  | case4 start _ line rest _ _ header _ headers left hread ih =>
      rw [hread] at ih
      exact (ih (List.suffix_refl rest)).trans ((List.suffix_cons line rest).trans hlines)
  | case5 => exact List.suffix_refl _

theorem splitBody_suffix (lines : List Line) : (splitBody lines).2 <:+ lines :=
  (List.dropWhile_suffix _).trans (List.dropWhile_suffix _)

theorem exists_of_map_eq_ok {Found Result : Type} {read : Except DocumentFault Found}
    {f : Found → Result} {result : Result} (hmap : read.map f = .ok result) :
    ∃ found, read = .ok found ∧ f found = result := by
  cases read with
  | error fault => exact nomatch hmap
  | ok found => exact ⟨found, rfl, Except.ok.inj hmap⟩

theorem readRequest_suffix {block : Block} {line : Line} {rest left : List Line}
    {request : Request} (hread : readRequest block line rest = .ok (request, left)) :
    left <:+ rest := by
  unfold readRequest at hread
  cases hline : LineForm.requestLine? line.content with
  | none => rw [hline] at hread; exact nomatch hread
  | some found =>
      rw [hline] at hread
      obtain ⟨decoded, -, hpair⟩ := exists_of_map_eq_ok hread
      obtain ⟨-, rfl⟩ := Prod.mk.inj hpair
      exact (splitBody_suffix _).trans (readHeaders_suffix false (List.suffix_refl rest))

theorem readRecord_suffix {first : Line} {rest left : List Line} {record : Option Record}
    (hread : readRecord first rest = .ok (record, left)) : left <:+ rest := by
  unfold readRecord at hread
  match hpreamble : readPreamble (Block.start first.number) (first :: rest) with
  | .error fault => rw [hpreamble] at hread; exact nomatch hread
  | .ok (block, []) =>
      rw [hpreamble] at hread
      obtain ⟨-, rfl⟩ := Prod.mk.inj (Except.ok.inj hread)
      exact List.nil_suffix
  | .ok (block, line :: after) =>
      have hafter : after <:+ rest := by
        rcases List.suffix_cons_iff.mp (readPreamble_suffix hpreamble) with heq | hsuffix
        · obtain ⟨-, rfl⟩ := List.cons_eq_cons.mp heq
          exact List.suffix_refl after
        · exact (List.suffix_cons line after).trans hsuffix
      rw [hpreamble] at hread
      cases hseparator : line.isSeparator with
      | true =>
          simp only [hseparator, if_true] at hread
          obtain ⟨-, rfl⟩ := Prod.mk.inj (Except.ok.inj hread)
          exact hafter
      | false =>
          simp only [hseparator, Bool.false_eq_true, if_false] at hread
          obtain ⟨⟨request, remaining⟩, hrequest, hpair⟩ := exists_of_map_eq_ok hread
          obtain ⟨-, rfl⟩ := Prod.mk.inj hpair
          exact (List.tail_suffix _).trans ((readRequest_suffix hrequest).trans hafter)

/-- The records of lines up to the first fault, and that fault. -/
def readRecords : List Line → List Record × Option DocumentFault
  | [] => ([], none)
  | first :: rest =>
      match hread : readRecord first rest with
      | .error fault => ([], some fault)
      | .ok (record, left) =>
          have := (readRecord_suffix hread).length_le
          let (records, fault) := readRecords left
          (record.toList ++ records, fault)
termination_by lines => lines.length

/-- The records of a document up to its first fault, and that fault. -/
def readUpToFault (text : Text) : List Record × Option DocumentFault :=
  readRecords (Line.ofText text)

/-- The records of a document. -/
def read (text : Text) : Except DocumentFault (List Record) :=
  match readUpToFault text with
  | (records, none) => .ok records
  | (_, some fault) => .error fault

end Document

end HttpScript
