import HttpScript.Proofs.Document.Faults
import Mathlib.Data.List.ModifyLast

/-!
# Headers and body

The lines between a request line and the next separator are cut in two.  In front stands the header
section, lines of the form `(comment* blank* header)*`, and it reaches as far as lines of this form
can (`IsHeaderSection`); whatever follows it is the body.

The reader looks ahead for each header, and it takes nothing when it finds none.  So what it takes is
a header section (`exists_isHeaderSection`).  In turn it takes every header section that the lines
begin with (`readHeaders_of_isHeaderSection`), so that it takes the longest one.

Trimming a body takes away whole blank lines at both ends, the blank characters in front of its
first line and those behind its last one, and nothing else (`Text.lines_trim_join`).
-/

namespace HttpScript

/-! ## Joined lines that are trimmed -/

namespace Text

theorem trim_append_of_forall_left {blanks : Text} (hblank : ∀ c ∈ blanks, isBlank c = true)
    (text : Text) : trim (blanks ++ text) = trim text := by
  rw [trim, trimStart, List.dropWhile_append_of_pos hblank, trim, trimStart]

theorem mem_join_of_mem {parts : List Text} {part : Text} (hpart : part ∈ parts) {c : Char}
    (hc : c ∈ part) (separator : Text) : c ∈ join separator parts := by
  induction parts with
  | nil => cases hpart
  | cons first rest ih =>
      cases rest with
      | nil =>
          rw [List.mem_singleton.mp hpart] at hc
          rwa [join, List.intercalate_singleton]
      | cons second rest =>
          rw [join_cons, List.append_assoc]
          rcases List.mem_cons.mp hpart with rfl | hpart
          · exact List.mem_append_left _ hc
          · exact List.mem_append_right _ (List.mem_append_right _ (ih hpart))

theorem trimStart_join {first : Text} (hnil : trimStart first ≠ []) (separator : Text)
    (rest : List Text) :
    trimStart (join separator (first :: rest)) = join separator (trimStart first :: rest) := by
  cases rest with
  | nil => rw [join, join, List.intercalate_singleton, List.intercalate_singleton]
  | cons second rest =>
      rw [join_cons, join_cons, List.append_assoc, trimStart_append hnil, List.append_assoc]

theorem trimEnd_join {last : Text} (hnil : trimEnd last ≠ []) (separator : Text)
    (before : List Text) :
    trimEnd (join separator (before ++ [last])) = join separator (before ++ [trimEnd last]) := by
  by_cases hbefore : before = []
  · rw [hbefore, List.nil_append, List.nil_append, join, join, List.intercalate_singleton,
      List.intercalate_singleton]
  · rw [join_concat hbefore, join_concat hbefore, trimEnd_append hnil]

theorem trimStart_ne_nil {text : Text} (hnil : trim text ≠ []) : trimStart text ≠ [] :=
  fun heq => hnil (by rw [trim, heq]; rfl)

theorem trimEnd_trimStart_ne_nil {text : Text} (hnil : trim text ≠ []) : trimEnd text ≠ [] :=
  fun heq => hnil (by rw [← trim_trimEnd, heq]; rfl)

/-- Where neither the first nor the last line is blank, trimming all lines is trimming the first one
in front and the last one behind. -/
theorem trim_join {parts : List Text} (separator : Text)
    (hfirst : ∀ first ∈ parts.head?, trim first ≠ [])
    (hlast : ∀ last ∈ parts.getLast?, trim last ≠ []) :
    trim (join separator parts) =
      join separator ((parts.modifyHead trimStart).modifyLast trimEnd) := by
  rcases List.eq_nil_or_concat' parts with rfl | ⟨before, last, rfl⟩
  · rfl
  have hlastNil : trim last ≠ [] := hlast last (by simp)
  cases before with
  | nil =>
      rw [List.nil_append, join, List.intercalate_singleton, List.modifyHead_cons,
        ← List.nil_append [trimStart last], List.modifyLast_concat, List.nil_append, join,
        List.intercalate_singleton, trim]
  | cons first rest =>
      have hfirstNil : trim first ≠ [] := hfirst first rfl
      rw [List.cons_append, trim, trimStart_join (trimStart_ne_nil hfirstNil),
        List.modifyHead_cons, ← List.cons_append, List.modifyLast_concat,
        trimEnd_join (trimEnd_trimStart_ne_nil hlastNil)]

/-- The lines of a trimmed text are the lines it was joined from, but for what was trimmed. -/
theorem lines_trim_join {parts : List Text} (hnil : parts ≠ [])
    (honeLine : ∀ part ∈ parts, IsOneLine part)
    (hfirst : ∀ first ∈ parts.head?, trim first ≠ [])
    (hlast : ∀ last ∈ parts.getLast?, trim last ≠ []) :
    lines (trim (join ['\n'] parts)) = (parts.modifyHead trimStart).modifyLast trimEnd := by
  rw [trim_join ['\n'] hfirst hlast]
  have htrimStart {text : Text} (htext : IsOneLine text) : IsOneLine (trimStart text) :=
    htext.mono fun c hc => (trimStart_suffix text).subset hc
  have htrimEnd {text : Text} (htext : IsOneLine text) : IsOneLine (trimEnd text) :=
    htext.mono fun c hc => (trimEnd_isPrefix text).subset hc
  have hhead : ∀ part ∈ parts.modifyHead trimStart, IsOneLine part := by
    cases parts with
    | nil => exact absurd rfl hnil
    | cons first rest =>
        rw [List.forall_mem_cons] at honeLine
        exact List.forall_mem_cons.mpr ⟨htrimStart honeLine.1, honeLine.2⟩
  obtain ⟨before, last, hparts⟩ : ∃ before last, parts.modifyHead trimStart = before ++ [last] :=
    (List.eq_nil_or_concat' _).resolve_left (by simpa using hnil)
  rw [hparts] at hhead ⊢
  rw [List.modifyLast_concat]
  refine lines_join (by simp) fun part hpart => ?_
  rcases List.mem_append.mp hpart with hbefore | hmem
  · exact hhead part (List.mem_append_left _ hbefore)
  · rw [List.mem_singleton.mp hmem]
    exact htrimEnd (hhead last (by simp))

end Text

namespace Document

/-! ## Header sections -/

/-- Lines of the form `(comment* blank* header)*`, and the headers among them. -/
inductive IsHeaderSection : List Line → List (Text × Text) → Prop
  | nil : IsHeaderSection [] []
  | cons {comments blanks rest : List Line} {line : Line} {header : Text × Text}
      {headers : List (Text × Text)}
      (hcomments : ∀ comment ∈ comments, LineForm.isComment comment.content = true)
      (hblanks : ∀ blank ∈ blanks, blank.isBlank = true)
      (hheader : LineForm.header? line.content = some header)
      (hrest : IsHeaderSection rest headers) :
      IsHeaderSection (comments ++ blanks ++ line :: rest) (header :: headers)

section Passed

variable {start comments blanks : List Line}

theorem readHeaders_comments
    (hcomments : ∀ comment ∈ comments, LineForm.isComment comment.content = true)
    (more : List Line) :
    readHeaders start false (comments ++ more) = readHeaders start false more := by
  induction comments with
  | nil => rfl
  | cons comment rest ih =>
      rw [List.forall_mem_cons] at hcomments
      rw [List.cons_append, readHeaders_comment comment hcomments.1, ih hcomments.2]

theorem exists_readHeaders_blanks (hblanks : ∀ blank ∈ blanks, blank.isBlank = true)
    (seenBlank : Bool) (more : List Line) :
    ∃ seen, readHeaders start seenBlank (blanks ++ more) = readHeaders start seen more := by
  induction blanks generalizing seenBlank with
  | nil => exact ⟨seenBlank, rfl⟩
  | cons blank rest ih =>
      rw [List.forall_mem_cons] at hblanks
      rw [List.cons_append, readHeaders_blank blank hblanks.1]
      exact ih hblanks.2 true

end Passed

/-- A header section at the beginning is taken, and the reader goes on behind it. -/
theorem readHeaders_of_isHeaderSection {head : List Line} {headers : List (Text × Text)}
    (hsection : IsHeaderSection head headers) (more : List Line) :
    readHeaders (head ++ more) false (head ++ more) =
      (headers ++ (readHeaders more false more).1, (readHeaders more false more).2) := by
  induction hsection with
  | nil => rfl
  | @cons comments blanks rest line header headers hcomments hblanks hheader _ ih =>
      have hcomment : LineForm.isComment line.content = false := by
        rw [← Bool.not_eq_true]
        intro hcomment
        rw [LineForm.header?_eq_none_of_isComment hcomment] at hheader
        cases hheader
      generalize hstart : comments ++ blanks ++ line :: rest ++ more = start
      rw [← hstart, List.append_assoc, List.append_assoc, readHeaders_comments hcomments]
      obtain ⟨seen, hseen⟩ := exists_readHeaders_blanks hblanks false (line :: rest ++ more)
      rw [hseen, List.cons_append, readHeaders_header line hcomment hheader, ih]
      rfl

/-- What is taken is a header section.  What was passed since the last header are comments with blank
lines behind them; if no header follows, it is not taken. -/
theorem exists_isHeaderSection {start comments blanks lines : List Line} {seenBlank : Bool}
    (hstart : start = comments ++ blanks ++ lines)
    (hcomments : ∀ comment ∈ comments, LineForm.isComment comment.content = true)
    (hblanks : ∀ blank ∈ blanks, blank.isBlank = true)
    (hseen : seenBlank = false → blanks = []) :
    ∃ head, start = head ++ (readHeaders start seenBlank lines).2 ∧
      IsHeaderSection head (readHeaders start seenBlank lines).1 := by
  have hconcat {p : Line → Prop} {passed : List Line} {line : Line}
      (hpassed : ∀ other ∈ passed, p other) (hline : p line) :
      ∀ other ∈ passed ++ [line], p other := by
    intro other hother
    rcases List.mem_append.mp hother with hother | hother
    · exact hpassed other hother
    · rwa [List.mem_singleton.mp hother]
  fun_induction readHeaders start seenBlank lines generalizing comments blanks with
  | case1 => exact ⟨[], rfl, .nil⟩
  | case2 start seenBlank line rest hblank ih =>
      refine ih ?_ hcomments (hconcat hblanks hblank) fun htrue => absurd htrue.symm (by decide)
      rw [hstart, List.append_cons, List.append_assoc comments]
  | case3 start seenBlank line rest _ hcomment ih =>
      obtain ⟨hnot, hcomment⟩ := Bool.and_eq_true_iff.mp hcomment
      obtain rfl := hseen ((Bool.not_eq_true' _).mp hnot)
      refine ih ?_ (hconcat hcomments hcomment) (List.forall_mem_nil _) fun _ => rfl
      rw [hstart, List.append_nil, List.append_nil, List.append_cons]
  | case4 start seenBlank line rest _ _ header hheader headers left hread ih =>
      obtain ⟨head, hhead, hsection⟩ :=
        ih rfl (List.forall_mem_nil _) (List.forall_mem_nil _) fun _ => rfl
      rw [hread] at hhead hsection
      refine ⟨comments ++ blanks ++ line :: head, ?_, .cons hcomments hblanks hheader hsection⟩
      rw [hstart, hhead, List.append_assoc (comments ++ blanks), List.cons_append]
  | case5 => exact ⟨[], rfl, .nil⟩

theorem exists_isHeaderSection_start (lines : List Line) :
    ∃ head, lines = head ++ (readHeaders lines false lines).2 ∧
      IsHeaderSection head (readHeaders lines false lines).1 := by
  have hlines : lines = [] ++ [] ++ lines := rfl
  exact exists_isHeaderSection hlines (List.forall_mem_nil _) (List.forall_mem_nil _) fun _ => rfl

/-! ## Bodies -/

theorem bodyText_append_of_isBlank_left {blanks lines : List Line}
    (hblank : ∀ line ∈ blanks, line.isBlank = true) (hnil : lines ≠ []) :
    bodyText (blanks ++ lines) = bodyText lines := by
  induction blanks with
  | nil => rfl
  | cons line rest ih =>
      rw [List.forall_mem_cons] at hblank
      have hraw : Text.trim line.raw = [] := List.isEmpty_iff.mp hblank.1
      obtain ⟨second, others, hothers⟩ :=
        List.exists_cons_of_ne_nil (List.append_ne_nil_of_right_ne_nil rest hnil)
      rw [← ih hblank.2, List.cons_append, hothers, bodyText, bodyText, List.map_cons,
        List.map_cons, Text.join_cons, Text.trim_append_of_forall_left]
      intro c hc
      rcases List.mem_append.mp hc with hc | hc
      · exact Text.trim_eq_nil_iff.mp hraw c hc
      · rw [List.mem_singleton.mp hc]
        decide

/-- Lines that are not all blank, without the blank ones at both ends. -/
theorem exists_core {lines : List Line} (hnot : ¬∀ line ∈ lines, line.isBlank = true) :
    ∃ above core below, lines = above ++ core ++ below ∧
      (∀ line ∈ above ++ below, line.isBlank = true) ∧ core ≠ [] ∧
      (∀ first ∈ core.head?, first.isBlank = false) ∧
      ∀ last ∈ core.getLast?, last.isBlank = false := by
  have habove : ∀ line ∈ lines.takeWhile Line.isBlank, line.isBlank = true :=
    fun line hline => List.mem_takeWhile_imp hline
  have hlines : lines.takeWhile Line.isBlank ++ lines.dropWhile Line.isBlank = lines :=
    List.takeWhile_append_dropWhile
  cases hdrop : lines.dropWhile Line.isBlank with
  | nil => exact absurd (List.dropWhile_eq_nil_iff.mp hdrop) hnot
  | cons first rest =>
      have hfirst := List.head?_dropWhile_not Line.isBlank lines
      rw [hdrop] at hfirst hlines
      have hmem : first ∈ first :: rest := List.mem_cons_self
      obtain ⟨before, last, blanks, hcore, hlast, hblanks⟩ := exists_last hmem hfirst
      refine ⟨lines.takeWhile Line.isBlank, before ++ [last], blanks, ?_, fun line hline => ?_,
        List.append_ne_nil_of_right_ne_nil before (List.cons_ne_nil last []), ?_, ?_⟩
      · rw [List.append_assoc, List.append_assoc, List.singleton_append, ← hcore]
        exact hlines.symm
      · rcases List.mem_append.mp hline with hline | hline
        · exact habove line hline
        · exact hblanks line hline
      · intro other hother
        have hhead : (before ++ last :: blanks).head? = some other := by
          rw [List.append_cons]
          exact List.mem_head?_append_of_mem_head? hother
        rw [← hcore] at hhead
        rwa [← Option.some.inj hhead]
      · intro other hother
        rw [List.getLast?_concat] at hother
        rwa [← Option.some.inj hother]

theorem bodyText_eq_nil_iff {lines : List Line} :
    bodyText lines = [] ↔ ∀ line ∈ lines, line.isBlank = true := by
  constructor
  · intro hnil line hline
    refine List.isEmpty_iff.mpr (Text.trim_eq_nil_iff.mpr fun c hc => ?_)
    exact Text.trim_eq_nil_iff.mp hnil c
      (Text.mem_join_of_mem (List.mem_map_of_mem hline) hc _)
  · intro hblank
    refine Text.trim_eq_nil_iff.mpr fun c hc => ?_
    rcases Text.mem_of_mem_join hc with hbreak | ⟨raw, hraw, hc⟩
    · rw [List.mem_singleton.mp hbreak]
      decide
    · obtain ⟨line, hline, rfl⟩ := List.mem_map.mp hraw
      exact Text.trim_eq_nil_iff.mp (List.isEmpty_iff.mp (hblank line hline)) c hc

theorem onlyComments_iff {lines : List Line} : onlyComments lines = true ↔ ArePassed lines := by
  simp [onlyComments, ArePassed]

theorem readBody_eq_none_iff {lines : List Line} : readBody lines = none ↔ ArePassed lines := by
  rw [readBody, ← onlyComments_iff]
  cases honly : onlyComments lines with
  | true => simp
  | false =>
      have hnil : bodyText lines ≠ [] := by
        intro hnil
        have hpassed : ArePassed lines := fun line hline =>
          .inl (bodyText_eq_nil_iff.mp hnil line hline)
        rw [onlyComments_iff.mpr hpassed] at honly
        cases honly
      simp [hnil]

/-! ## The requests of a document -/

theorem exists_of_mem_readRecord {first : Line} {rest left : List Line} {request : Request}
    (hread : readRecord first rest = .ok (some (.request request), left)) :
    ∃ block line after remaining,
      readPreamble (Block.start first.number) (first :: rest) = .ok (block, line :: after) ∧
        line.isSeparator = false ∧ readRequest block line after = .ok (request, remaining) := by
  have hbare (block : Block) : bareRecord block ≠ some (.request request) := by
    rw [bareRecord]
    split <;> simp
  obtain ⟨block, after, hpreamble, ⟨hrecord, -⟩ |
    ⟨line, others, found, remaining, rfl, hseparator, hrequest, hfound, -⟩⟩ :=
      readRecord_eq_ok hread
  · exact absurd hrecord.symm (hbare block)
  · obtain rfl := Record.request.inj (Option.some.inj hfound)
    exact ⟨block, line, others, remaining, hpreamble, hseparator, hrequest⟩

/-- Every request was read where the reader came to a request. -/
theorem exists_of_mem_readRecords {lines : List Line} {request : Request}
    (hmem : .request request ∈ (readRecords lines).1) :
    ∃ block line rest left, ComesTo lines block line rest ∧
      readRequest block line rest = .ok (request, left) := by
  fun_induction readRecords lines with
  | case1 => cases hmem
  | case2 => cases hmem
  | case3 first rest record left hread _ records fault hrecords ih =>
      rcases List.mem_append.mp hmem with hmem | hmem
      · obtain rfl := Option.mem_toList.mp hmem
        obtain ⟨block, line, after, remaining, hpreamble, hseparator, hrequest⟩ :=
          exists_of_mem_readRecord hread
        exact ⟨block, line, after, remaining, .here hpreamble hseparator, hrequest⟩
      · rw [hrecords] at ih
        obtain ⟨block, line, after, remaining, hcomes, hrequest⟩ := ih hmem
        exact ⟨block, line, after, remaining, .later hread hcomes, hrequest⟩

/-- Every request of a document that can be read was read where the reader came to a request. -/
theorem exists_of_mem_read {text : Text} {records : List Record}
    (hread : Document.read text = .ok records) {request : Request}
    (hrequest : request ∈ requestsOf records) :
    ∃ block line rest left, ComesTo (Line.ofText text) block line rest ∧
      readRequest block line rest = .ok (request, left) := by
  obtain ⟨record, hrecord, hfound⟩ := List.mem_filterMap.mp hrequest
  have hmem : record ∈ (readRecords (Line.ofText text)).1 := by
    rwa [readRecords_of_read hread]
  obtain rfl : record = .request request := by
    cases record with
    | bare inner => cases hfound
    | request inner => rw [Option.some.inj hfound]
  exact exists_of_mem_readRecords hmem

/-- What a request takes from its lines. -/
theorem readRequest_eq_ok {block : Block} {line : Line} {rest left : List Line} {request : Request}
    (hread : readRequest block line rest = .ok (request, left)) :
    request.line = line.number ∧
      LineForm.requestLine? line.content = some (request.method, request.url) ∧
      request.headers = (readHeaders rest false rest).1 ∧
      request.body = readBody (bodyLines rest) ∧ request.directives = block.directives := by
  unfold readRequest at hread
  cases hline : LineForm.requestLine? line.content with
  | none =>
      rw [hline] at hread
      cases hread
  | some found =>
      rw [hline] at hread
      obtain ⟨decoded, hdecode, hpair⟩ := exists_of_map_eq_ok hread
      obtain ⟨rfl, -⟩ := Prod.mk.inj hpair
      obtain ⟨bodyJson, rfl⟩ := exists_of_decodeBody hdecode
      exact ⟨rfl, rfl, rfl, rfl, rfl⟩

/-- The lines up to the next separator. -/
def ownLines (lines : List Line) : List Line :=
  lines.takeWhile fun line => !line.isSeparator

theorem isSeparator_of_mem_ownLines {lines : List Line} {line : Line}
    (hline : line ∈ ownLines lines) : line.isSeparator = false := by
  have hown := List.mem_takeWhile_imp (p := fun line : Line => !line.isSeparator) hline
  rwa [Bool.not_eq_true'] at hown

/-- Neither the headers nor the body depend on what stands behind the next separator. -/
theorem readHeaders_and_bodyLines_ownLines (rest : List Line) :
    (readHeaders rest false rest).1 = (readHeaders (ownLines rest) false (ownLines rest)).1 ∧
      bodyLines rest = bodyLines (ownLines rest) := by
  have hrest : ownLines rest ++ rest.dropWhile (fun line => !line.isSeparator) = rest :=
    List.takeWhile_append_dropWhile
  cases hdrop : rest.dropWhile (fun line => !line.isSeparator) with
  | nil =>
      rw [hdrop, List.append_nil] at hrest
      rw [hrest]
      exact ⟨rfl, rfl⟩
  | cons separator after =>
      have hstop := List.head?_dropWhile_not (fun line : Line => !line.isSeparator) rest
      rw [hdrop] at hstop hrest
      have hseparator : separator.isSeparator = true := (Bool.not_eq_false' _).mp hstop
      have happend := readHeaders_append hseparator after (ownLines rest) false (ownLines rest)
      rw [hrest] at happend
      rw [bodyLines, bodyLines, happend, splitBody_append hseparator]
      exact ⟨rfl, rfl⟩

theorem bodyLines_ownLines (rest : List Line) :
    bodyLines (ownLines rest) =
      (readHeaders (ownLines rest) false (ownLines rest)).2.dropWhile Line.isBlank := by
  rw [bodyLines, splitBody]
  refine List.takeWhile_eq_self_iff.mpr fun line hline => ?_
  have hsuffix := (List.dropWhile_suffix Line.isBlank).trans
    (readHeaders_suffix false (List.suffix_refl (ownLines rest)))
  rw [isSeparator_of_mem_ownLines (hsuffix.subset hline)]
  rfl

/-! ## How the lines of a request are cut -/

/-- How lines are the headers and the body of a request: `head` is the longest header section that
they begin with, and `rest` is whatever follows it. -/
structure IsCut (own head rest : List Line) (request : Request) : Prop where
  own_eq : own = head ++ rest
  headers : IsHeaderSection head request.headers
  longest : ∀ other headers, IsHeaderSection other headers → other <+: own → other <+: head
  body_missing : request.body = none ↔ ArePassed rest
  body : ∀ body ∈ request.body, body = Text.trim (Text.join ['\n'] (rest.map Line.raw))
  lines : ∀ body ∈ request.body, ∃ above core below, rest = above ++ core ++ below ∧
    (∀ line ∈ above ++ below, line.isBlank = true) ∧
    Text.lines body = ((core.map Line.raw).modifyHead Text.trimStart).modifyLast Text.trimEnd

/-- A header section that lines begin with is no longer than what is taken of them. -/
theorem isPrefix_of_isHeaderSection {own head other : List Line} {headers : List (Text × Text)}
    (hown : own = head ++ (readHeaders own false own).2) (hother : IsHeaderSection other headers)
    (hbegin : other <+: own) : other <+: head := by
  obtain ⟨more, rfl⟩ := hbegin
  have hleft := readHeaders_of_isHeaderSection hother more
  have hsuffix : (readHeaders more false more).2 <:+ more :=
    readHeaders_suffix false (List.suffix_refl more)
  have hhead : head <+: other ++ more := ⟨_, hown.symm⟩
  refine List.prefix_of_prefix_length_le (List.prefix_append other more) hhead ?_
  rw [hleft] at hown
  have hlength := congrArg List.length hown
  rw [List.length_append, List.length_append] at hlength
  have hle := hsuffix.length_le
  dsimp only at hlength
  omega

theorem bodyText_dropWhile_isBlank (rest : List Line) :
    bodyText (rest.dropWhile Line.isBlank) = bodyText rest := by
  have hrest : rest.takeWhile Line.isBlank ++ rest.dropWhile Line.isBlank = rest :=
    List.takeWhile_append_dropWhile
  have hblanks : ∀ line ∈ rest.takeWhile Line.isBlank, line.isBlank = true :=
    fun line hline => List.mem_takeWhile_imp hline
  by_cases hnil : rest.dropWhile Line.isBlank = []
  · rw [hnil, bodyText_eq_nil_iff.mpr (List.dropWhile_eq_nil_iff.mp hnil)]
    rfl
  · rw [← bodyText_append_of_isBlank_left hblanks hnil, hrest]

theorem arePassed_dropWhile_isBlank (rest : List Line) :
    ArePassed (rest.dropWhile Line.isBlank) ↔ ArePassed rest := by
  constructor
  · intro hpassed line hline
    rw [← List.takeWhile_append_dropWhile (p := Line.isBlank) (l := rest)] at hline
    rcases List.mem_append.mp hline with hblank | hline
    · exact .inl (List.mem_takeWhile_imp hblank)
    · exact hpassed line hline
  · exact fun hpassed line hline => hpassed line ((List.dropWhile_suffix _).subset hline)

theorem exists_lines_bodyText {rest : List Line} (hlines : AreLines rest)
    (hnil : bodyText rest ≠ []) :
    ∃ above core below, rest = above ++ core ++ below ∧
      (∀ line ∈ above ++ below, line.isBlank = true) ∧
      Text.lines (bodyText rest) =
        ((core.map Line.raw).modifyHead Text.trimStart).modifyLast Text.trimEnd := by
  obtain ⟨above, core, below, rfl, hblanks, hcore, hfirst, hlast⟩ :=
    exists_core (mt bodyText_eq_nil_iff.mpr hnil)
  refine ⟨above, core, below, rfl, hblanks, ?_⟩
  have habove : bodyText (above ++ core ++ below) = bodyText core := by
    rw [List.append_assoc, bodyText_append_of_isBlank_left
      (fun line hline => hblanks line (List.mem_append_left _ hline))
      (List.append_ne_nil_of_left_ne_nil hcore below), bodyText_append_of_isBlank hcore
      fun line hline => hblanks line (List.mem_append_right _ hline)]
  have honeLine : AreLines core := hlines.mono fun line hline =>
    List.mem_append_left _ (List.mem_append_right _ hline)
  have hraw {line : Line} (hline : line.isBlank = false) : Text.trim line.raw ≠ [] := by
    intro heq
    rw [Line.isBlank, Line.content, heq] at hline
    cases hline
  rw [habove]
  refine Text.lines_trim_join (mt List.map_eq_nil_iff.mp hcore) honeLine.raw ?_ ?_
  · intro raw hmem
    rw [List.head?_map] at hmem
    obtain ⟨line, hline, rfl⟩ := Option.map_eq_some_iff.mp hmem
    exact hraw (hfirst line hline)
  · intro raw hmem
    rw [List.getLast?_map] at hmem
    obtain ⟨line, hline, rfl⟩ := Option.map_eq_some_iff.mp hmem
    exact hraw (hlast line hline)

theorem exists_isCut {block : Block} {line : Line} {rest left : List Line} {request : Request}
    (hlines : AreLines rest) (hread : readRequest block line rest = .ok (request, left)) :
    ∃ head behind, IsCut (ownLines rest) head behind request := by
  obtain ⟨-, -, hheaders, hbody, -⟩ := readRequest_eq_ok hread
  obtain ⟨hownHeaders, hownBody⟩ := readHeaders_and_bodyLines_ownLines rest
  rw [hownHeaders] at hheaders
  rw [hownBody, bodyLines_ownLines] at hbody
  obtain ⟨head, hown, hsection⟩ := exists_isHeaderSection_start (ownLines rest)
  have hlongest : ∀ other headers, IsHeaderSection other headers → other <+: ownLines rest →
      other <+: head :=
    fun other headers hother hbegin => isPrefix_of_isHeaderSection hown hother hbegin
  have hbehind : AreLines (readHeaders (ownLines rest) false (ownLines rest)).2 :=
    hlines.mono fun other hother => (List.takeWhile_prefix _).subset
      ((readHeaders_suffix false (List.suffix_refl _)).subset hother)
  generalize (readHeaders (ownLines rest) false (ownLines rest)).2 = behind at *
  have hnone : request.body = none ↔ ArePassed behind := by
    rw [hbody, readBody_eq_none_iff, arePassed_dropWhile_isBlank]
  have htext : ∀ body ∈ request.body, body = bodyText behind := by
    intro body hmem
    rw [hbody] at hmem
    rw [eq_bodyText_of_readBody hmem, bodyText_dropWhile_isBlank]
  refine ⟨head, behind, hown, hheaders ▸ hsection, hlongest, hnone, htext, fun body hmem => ?_⟩
  have hnil : bodyText behind ≠ [] := by
    intro heq
    have hpassed : ArePassed behind :=
      fun other hother => .inl (bodyText_eq_nil_iff.mp heq other hother)
    rw [hnone.mpr hpassed] at hmem
    cases hmem
  rw [htext body hmem]
  exact exists_lines_bodyText hbehind hnil

/-- Every request of a document that can be read stands at the line of its number, and the lines
behind that one up to the next separator are cut into its headers and its body. -/
theorem isCut_of_read {text : Text} {records : List Record}
    (hread : Document.read text = .ok records) {request : Request}
    (hrequest : request ∈ requestsOf records) :
    ∃ before line after head rest, Line.ofText text = before ++ line :: after ∧
      line.number = request.line ∧
      LineForm.requestLine? line.content = some (request.method, request.url) ∧
      IsCut (ownLines after) head rest request := by
  obtain ⟨block, line, rest, left, hcomes, hrequest⟩ := exists_of_mem_read hread hrequest
  obtain ⟨before, hlines⟩ := hcomes.suffix
  obtain ⟨hnumber, hline, -⟩ := readRequest_eq_ok hrequest
  have hareLines := areLines_ofText text
  have hrest : AreLines rest := by
    rw [← hlines] at hareLines
    exact hareLines.mono fun other hother =>
      List.mem_append_right _ (List.mem_cons_of_mem line hother)
  obtain ⟨head, behind, hcut⟩ := exists_isCut hrest hrequest
  exact ⟨before, line, rest, head, behind, hlines.symm, hnumber.symm, hline, hcut⟩

/-- A comment and a blank line in front of a header belong to the header section; a comment behind a
blank line that no header follows begins the body. -/
theorem isCut_of_read_commented :
    ∃ records request,
      Document.read "GET /a\n# one\n\nx: 1\n\n# two\n  b \n###" = .ok records ∧
      request ∈ requestsOf records ∧ request.headers = [("x".toList, "1".toList)] ∧
      request.body = some "# two\n  b" ∧
      ∃ before line after head rest,
        Line.ofText "GET /a\n# one\n\nx: 1\n\n# two\n  b \n###" = before ++ line :: after ∧
        line.number = request.line ∧
        LineForm.requestLine? line.content = some (request.method, request.url) ∧
        IsCut (ownLines after) head rest request := by
  have hlines : Line.ofText "GET /a\n# one\n\nx: 1\n\n# two\n  b \n###" =
      [⟨1, "GET /a"⟩, ⟨2, "# one"⟩, ⟨3, []⟩, ⟨4, "x: 1"⟩, ⟨5, []⟩, ⟨6, "# two"⟩, ⟨7, "  b "⟩,
        ⟨8, "###"⟩] := by decide
  have hread := read_of_readRecord hlines rfl
  exact ⟨_, _, hread, List.mem_singleton_self _, rfl, rfl,
    isCut_of_read hread (List.mem_singleton_self _)⟩

end Document

end HttpScript
