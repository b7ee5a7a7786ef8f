import HttpScript.Proofs.Document.Concatenation
import HttpScript.Proofs.Document.WellFormed
import Mathlib.Data.List.Forall2

/-!
# The normal form of a document

The requests of a document are written one after the other: their variables, the request line, the
headers and, after an empty line, the body.  Reading what was written gives the same requests again.
Only the line numbers may differ, and directives are not written.

A written request is read line by line.  Each line has the form it was written in, so the reader
gets through the variables and headers without a detour, and well-formedness says that the body does
not look like more headers, like comments or like the end of the request.
-/

namespace HttpScript

/-! ## Writing -/

namespace Request

/-- The lines of a request before its body. -/
def headLines (request : Request) : List Text :=
  request.declared.map (fun entry => LineForm.writeDeclaration entry.1 entry.2) ++
    LineForm.writeRequestLine request.method request.url ::
      request.headers.map LineForm.writeHeader

/-- The lines of a request after its request line. -/
def tailLines (request : Request) : List Text :=
  request.headers.map LineForm.writeHeader ++ match request.body with
    | none => []
    | some body => [] :: Text.lines body

/-- A request in its normal form. -/
def write (request : Request) : Text :=
  Text.join "\n" (request.headLines ++ match request.body with
    | none => []
    | some body => [[], body])

end Request

namespace Document

/-- The document that consists of requests in their normal form. -/
def write (requests : List Request) : Text :=
  Text.join "\n###\n" (requests.map Request.write)

end Document

/-- A request on another line and without its directives. -/
def Request.plainAt (line : Nat) (request : Request) : Request :=
  { request with line, directives := [] }

/-! ## The lines of a written request -/

namespace Request.IsWellFormed

variable {request : Request} (hrequest : request.IsWellFormed)

include hrequest

theorem isOneLine_of_mem_headLines : ∀ raw ∈ request.headLines, Text.IsOneLine raw := by
  intro raw hraw
  rcases List.mem_append.mp hraw with hraw | hraw
  · obtain ⟨entry, hentry, rfl⟩ := List.mem_map.mp hraw
    exact (LineForm.isPhrase_writeDeclaration entry.2 (hrequest.declared.name entry hentry)
      (hrequest.declared.value entry hentry)).oneLine
  rcases List.mem_cons.mp hraw with rfl | hraw
  · exact (LineForm.isPhrase_writeRequestLine hrequest.method_ne_nil hrequest.method
      hrequest.url_ne_nil hrequest.url).oneLine
  · obtain ⟨header, hheader, rfl⟩ := List.mem_map.mp hraw
    exact LineForm.isOneLine_writeHeader (hrequest.header header hheader).name
      (hrequest.header header hheader).value

theorem lines_write :
    Text.lines request.write =
      request.declared.map (fun entry => LineForm.writeDeclaration entry.1 entry.2) ++
        LineForm.writeRequestLine request.method request.url :: request.tailLines := by
  have hhead := hrequest.isOneLine_of_mem_headLines
  rw [write, tailLines, ← List.cons_append, ← List.append_assoc]
  cases request.body with
  | none =>
      rw [List.append_nil]
      exact (Text.lines_join (by simp [headLines]) hhead).trans (List.append_nil _).symm
  | some body =>
      have hempty : ∀ raw ∈ request.headLines ++ [[]], Text.IsOneLine raw := by
        intro raw hraw
        rcases List.mem_append.mp hraw with hraw | hraw
        · exact hhead raw hraw
        · rw [List.mem_singleton.mp hraw]
          exact nofun
      have hlines := Text.lines_join_append hempty body
      rw [List.append_assoc, List.append_assoc] at hlines
      exact hlines

theorem return_notMem_write : '\r' ∉ request.write := by
  intro hmem
  rcases Text.mem_of_mem_join hmem with hbreak | ⟨part, hpart, hreturn⟩
  · exact absurd hbreak (by decide)
  rcases List.mem_append.mp hpart with hpart | hpart
  · exact (hrequest.isOneLine_of_mem_headLines part hpart '\r' hreturn).1 rfl
  · cases hbody : request.body with
    | none => rw [hbody] at hpart; exact nomatch hpart
    | some body =>
        rw [hbody] at hpart
        rcases List.mem_cons.mp hpart with rfl | hpart
        · exact nomatch hreturn
        · rw [List.mem_singleton.mp hpart] at hreturn
          exact (hrequest.body body hbody).return_notMem hreturn

end Request.IsWellFormed

namespace Document

/-! ## Reading the lines before the body -/

theorem content_of_isPhrase (number : Nat) {raw : Text} (hraw : Text.IsPhrase raw) :
    Line.content ⟨number, raw⟩ = raw :=
  hraw.trim_eq

theorem readPreamble_declarations {declared : Table Variable} (block : Block)
    (hname : ∀ entry ∈ declared, Text.isName entry.1 = true)
    (hvalue : ∀ entry ∈ declared, ∀ value ∈ entry.2.value, Text.IsPhrase value) (number : Nat)
    (after : List Line) :
    readPreamble block (Line.numberFrom number
        (declared.map fun entry => LineForm.writeDeclaration entry.1 entry.2) ++ after) =
      readPreamble { block with declared := Table.setAll block.declared declared } after := by
  induction declared generalizing block number with
  | nil => rfl
  | cons entry rest ih =>
      have hentryName := hname entry List.mem_cons_self
      have hentryValue := hvalue entry List.mem_cons_self
      have hcontent := content_of_isPhrase number
        (LineForm.isPhrase_writeDeclaration entry.2 hentryName hentryValue)
      obtain ⟨found, hdeclaration⟩ :=
        LineForm.declaration?_writeDeclaration entry.2 hentryName hentryValue
      have hcomment := LineForm.comment?_writeDeclaration entry.1 entry.2
      rw [← hcontent] at hdeclaration hcomment
      rw [List.map_cons, Line.numberFrom, List.cons_append,
        readPreamble_declaration block _ hcomment hdeclaration,
        ih _ (fun other hother => hname other (List.mem_cons_of_mem entry hother))
          (fun other hother => hvalue other (List.mem_cons_of_mem entry hother))]
      rfl

theorem readHeaders_headers {headers : List (Text × Text)}
    (hheaders : ∀ header ∈ headers, IsHeader header) (number : Nat) (after : List Line) :
    let lines := Line.numberFrom number (headers.map LineForm.writeHeader) ++ after
    readHeaders lines false lines =
      (headers ++ (readHeaders after false after).1, (readHeaders after false after).2) := by
  induction headers generalizing number with
  | nil => rfl
  | cons header rest ih =>
      have hheader := hheaders header List.mem_cons_self
      have hrest := ih (fun other hother => hheaders other (List.mem_cons_of_mem header hother))
        (number + 1)
      have hfound := LineForm.header?_writeHeader hheader.name_ne_nil hheader.name
        hheader.value.toIsTrimmed
      have hcomment := LineForm.isComment_writeHeader hheader.name_ne_nil hheader.name
        hheader.value.toIsTrimmed
      dsimp only at hrest ⊢
      rw [List.map_cons, Line.numberFrom, List.cons_append,
        readHeaders_header ⟨number, LineForm.writeHeader header⟩ hcomment hfound, hrest]
      rfl

/-! ## Reading the body -/

theorem map_raw_numberFrom (number : Nat) (raws : List Text) :
    (Line.numberFrom number raws).map Line.raw = raws := by
  induction raws generalizing number with
  | nil => rfl
  | cons raw rest ih => rw [Line.numberFrom, List.map_cons, ih]

theorem raw_mem_of_mem_numberFrom {number : Nat} {raws : List Text} {line : Line}
    (hline : line ∈ Line.numberFrom number raws) : line.raw ∈ raws := by
  rw [← map_raw_numberFrom number raws]
  exact List.mem_map_of_mem hline

section Body

variable {body : Text} (hbody : IsBody body)

include hbody

/-- A body begins with a line that is neither blank nor a header. -/
theorem exists_lines_body : ∃ first rest, Text.lines body = first :: rest ∧
    (Text.trim first).isEmpty = false ∧ LineForm.header? (Text.trim first) = none := by
  cases body with
  | nil =>
      obtain ⟨content, hcontent, -⟩ := hbody.not_onlyComments
      exact nomatch hcontent
  | cons c text =>
      -- the first character is not blank, so the first line is the one that it stands in
      have hc : Text.isBlank c = false := hbody.trimmed.first c rfl
      have hreturn : c ≠ '\r' := by rintro rfl; exact absurd hc (by decide)
      have hnewline : c ≠ '\n' := by rintro rfl; exact absurd hc (by decide)
      obtain ⟨first, rest, htext⟩ := List.exists_cons_of_ne_nil (Text.lines_ne_nil text)
      have hlines : Text.lines (c :: text) = (c :: first) :: rest := by
        rw [Text.lines_cons hreturn hnewline, htext]
        rfl
      have hblank : (Text.trim (c :: first)).isEmpty = false := by
        rw [List.isEmpty_eq_false_iff]
        intro hnil
        rw [Text.trim_eq_nil_iff.mp hnil c List.mem_cons_self] at hc
        exact nomatch hc
      refine ⟨c :: first, rest, hlines, hblank, hbody.not_header _ ?_⟩
      rw [Text.contents, hlines, List.map_cons, List.filter_cons, hblank]
      rfl

theorem isSeparator_eq_false_of_mem_lines {raw : Text} (hraw : raw ∈ Text.lines body) :
    LineForm.isSeparator (Text.trim raw) = false := by
  cases hblank : (Text.trim raw).isEmpty with
  | true =>
      rw [List.isEmpty_iff.mp hblank]
      rfl
  | false =>
      apply hbody.not_separator _
      rw [Text.contents, List.mem_filter, hblank]
      exact ⟨List.mem_map_of_mem hraw, rfl⟩

theorem readHeaders_body (number : Nat) :
    let lines := Line.numberFrom number ([] :: Text.lines body)
    readHeaders lines false lines = ([], lines) := by
  obtain ⟨first, rest, hlines, hblank, hheader⟩ := exists_lines_body hbody
  rw [hlines]
  exact (readHeaders_blank _ rfl).trans (readHeaders_stop ⟨number + 1, first⟩ hblank rfl hheader)

theorem splitBody_body (number : Nat) :
    splitBody (Line.numberFrom number ([] :: Text.lines body)) =
      (Line.numberFrom (number + 1) (Text.lines body), []) := by
  have hskip : (Line.numberFrom number ([] :: Text.lines body)).dropWhile Line.isBlank =
      Line.numberFrom (number + 1) (Text.lines body) := by
    obtain ⟨first, rest, hlines, hblank, -⟩ := exists_lines_body hbody
    rw [hlines]
    exact (List.dropWhile_cons_of_pos rfl).trans
      (List.dropWhile_cons_of_neg (ne_true_of_eq_false hblank))
  have hinside : ∀ line ∈ Line.numberFrom (number + 1) (Text.lines body),
      (!line.isSeparator) = true := by
    intro line hline
    rw [Bool.not_eq_true']
    exact isSeparator_eq_false_of_mem_lines hbody (raw_mem_of_mem_numberFrom hline)
  rw [splitBody, hskip]
  exact Prod.ext (List.takeWhile_eq_self_iff.mpr hinside) (List.dropWhile_eq_nil_iff.mpr hinside)

theorem readBody_body (number : Nat) :
    readBody (Line.numberFrom number (Text.lines body)) = some body := by
  have htext : bodyText (Line.numberFrom number (Text.lines body)) = body := by
    rw [bodyText, map_raw_numberFrom, Text.join_lines hbody.return_notMem, hbody.trimmed.trim_eq]
  obtain ⟨content, hcontent, hcomment⟩ := hbody.not_onlyComments
  obtain ⟨hmem, hblank⟩ := List.mem_filter.mp hcontent
  obtain ⟨raw, hraw, rfl⟩ := List.mem_map.mp hmem
  have hcomments : onlyComments (Line.numberFrom number (Text.lines body)) = false := by
    rw [← map_raw_numberFrom number (Text.lines body)] at hraw
    obtain ⟨line, hline, rfl⟩ := List.mem_map.mp hraw
    refine List.all_eq_false.mpr ⟨line, hline, ?_⟩
    rw [Bool.not_eq_true'] at hblank
    rw [Bool.not_eq_true, Bool.or_eq_false_iff]
    exact ⟨hblank, hcomment⟩
  have hempty : body.isEmpty = false := by
    rw [List.isEmpty_eq_false_iff]
    rintro rfl
    cases hcontent
  rw [readBody, htext, hcomments, hempty]
  rfl

end Body

/-- Whether a body can be decoded does not depend on where its request stands. -/
theorem decodeBody_plainAt {request decoded : Request} {line : Nat}
    (hdecode : decodeBody request line = .ok decoded) (number first : Nat) :
    decodeBody (request.plainAt number) first = .ok (decoded.plainAt number) := by
  cases hbody : request.body with
  | none =>
      rw [decodeBody_missing request line hbody] at hdecode
      rw [decodeBody_missing (request.plainAt number) first hbody, Except.ok.inj hdecode]
  | some body =>
      cases hjson : request.isJson && !hasPlaceholder body with
      | false =>
          rw [decodeBody_plain request line hbody hjson] at hdecode
          rw [decodeBody_plain (request.plainAt number) first hbody hjson, Except.ok.inj hdecode]
      | true =>
          cases hread : Json.read body with
          | ok value =>
              rw [decodeBody_json request line hbody hjson hread] at hdecode
              rw [decodeBody_json (request.plainAt number) first hbody hjson hread,
                ← Except.ok.inj hdecode]
              rfl
          | error fault =>
              rw [decodeBody_badJson request line hbody hjson hread] at hdecode
              exact nomatch hdecode

/-! ## Reading written requests -/

theorem readRequest_write {request : Request} (hrequest : request.IsWellFormed)
    (blockLine number : Nat) :
    readRequest ⟨blockLine, request.declared, []⟩
        ⟨number, LineForm.writeRequestLine request.method request.url⟩
        (Line.numberFrom (number + 1) request.tailLines) =
      .ok (request.plainAt number, []) := by
  obtain ⟨⟨line, declared, directives⟩, method, url, headers, body, bodyJson⟩ := request
  have hcontent := content_of_isPhrase number
    (LineForm.isPhrase_writeRequestLine hrequest.method_ne_nil hrequest.method
      hrequest.url_ne_nil hrequest.url)
  have hrequestLine := LineForm.requestLine?_writeRequestLine hrequest.method_ne_nil
    hrequest.method hrequest.url.toIsTrimmed
  obtain ⟨line, hdecode⟩ := hrequest.decoded
  rw [readRequest, hcontent, hrequestLine]
  dsimp only
  rw [Request.tailLines, Line.numberFrom_append, readHeaders_headers hrequest.header]
  cases body with
  | none =>
      have hplain := decodeBody_plainAt hdecode number 0
      simp only [Line.numberFrom, readHeaders, List.append_nil]
      exact congrArg (Except.map fun request => (request, [])) hplain
  | some body =>
      have hbody := hrequest.body body rfl
      dsimp only
      rw [readHeaders_body hbody, splitBody_body hbody]
      dsimp only
      rw [readBody_body hbody, List.append_nil]
      exact congrArg (Except.map fun request => (request, []))
        (decodeBody_plainAt hdecode number _)

theorem readPreamble_requestLine {request : Request} (hrequest : request.IsWellFormed)
    (block : Block) (number : Nat) (after : List Line) :
    let line : Line := ⟨number, LineForm.writeRequestLine request.method request.url⟩
    line.isSeparator = false ∧
      readPreamble block (line :: after) = .ok (block, line :: after) := by
  intro line
  have hcontent : line.content = LineForm.writeRequestLine request.method request.url :=
    content_of_isPhrase number (LineForm.isPhrase_writeRequestLine hrequest.method_ne_nil
      hrequest.method hrequest.url_ne_nil hrequest.url)
  have hfirst : ∀ c ∈ line.content.head?, c.isUpper = true := by
    rw [hcontent]
    exact LineForm.head?_writeRequestLine hrequest.method_ne_nil hrequest.method request.url
  have hother {d : Char} (hd : d.isUpper = false) : ∀ c ∈ line.content.head?, c ≠ d := by
    rintro c hc rfl
    rw [hfirst c hc] at hd
    exact nomatch hd
  have hblank : line.isBlank = false := by
    rw [Line.isBlank, List.isEmpty_eq_false_iff, hcontent, LineForm.writeRequestLine]
    simp
  have hcomment := LineForm.comment?_eq_none fun c hc =>
    ⟨hother (d := '#') rfl c hc, hother (d := '/') rfl c hc⟩
  exact ⟨LineForm.isSeparator_eq_false (hother rfl),
    readPreamble_stop block line hblank hcomment (LineForm.declaration?_eq_none (hother rfl))⟩

/-- A written request is read as the same request. -/
theorem read_writeRequest {request : Request} (hrequest : request.IsWellFormed) :
    ∃ line, Document.read request.write = .ok [.request (request.plainAt line)] := by
  have hlines := congrArg (Line.numberFrom 1) hrequest.lines_write
  rw [Line.numberFrom_append, Line.numberFrom] at hlines
  obtain ⟨number, hnumber⟩ : ∃ number, 1 + (request.declared.map fun entry =>
    LineForm.writeDeclaration entry.1 entry.2).length = number := ⟨_, rfl⟩
  rw [hnumber] at hlines
  obtain ⟨first, rest, hfirst⟩ : ∃ first rest,
      Line.numberFrom 1 (Text.lines request.write) = first :: rest := by
    apply List.exists_cons_of_ne_nil
    rw [hlines]
    simp
  -- the declarations fill the empty table of a new block, up to the request line
  obtain ⟨hseparator, hstop⟩ := readPreamble_requestLine hrequest
    ⟨first.number, request.declared, []⟩ number (Line.numberFrom (number + 1) request.tailLines)
  have hdeclared : Table.setAll [] request.declared = request.declared :=
    Table.setAll_eq_append hrequest.declared.nodup
  have hpreamble : readPreamble (Block.start first.number) (first :: rest) =
      .ok (⟨first.number, request.declared, []⟩,
        ⟨number, LineForm.writeRequestLine request.method request.url⟩ ::
          Line.numberFrom (number + 1) request.tailLines) := by
    rw [← hfirst, hlines, readPreamble_declarations _ hrequest.declared.name
      hrequest.declared.value, Block.start, hdeclared]
    exact hstop
  refine ⟨number, ?_⟩
  rw [Document.read, readUpToFault_eq, hfirst, readRecords_cons,
    readRecord_request hpreamble hseparator, readRequest_write hrequest]
  simp only [Except.map, List.tail_nil, Option.toList, readRecords]
  rfl

/-- Written requests are read as the same requests, wherever they stand. -/
theorem read_write {requests : List Request}
    (hrequests : ∀ request ∈ requests, request.IsWellFormed) :
    ∃ again, Document.read (write requests) = .ok (again.map Record.request) ∧
      List.Forall₂ (fun old new => ∃ line, new = Request.plainAt line old) requests again := by
  induction requests with
  | nil =>
      refine ⟨[], ?_, .nil⟩
      rw [Document.read, readUpToFault, show Line.ofText (write []) = [] from rfl, readRecords]
      rfl
  | cons request rest ih =>
      have hrequest := hrequests request List.mem_cons_self
      obtain ⟨again, hread, hagain⟩ :=
        ih fun other hother => hrequests other (List.mem_cons_of_mem request hother)
      obtain ⟨line, hfirst⟩ := read_writeRequest hrequest
      cases rest with
      | nil =>
          refine ⟨[request.plainAt line], ?_, .cons ⟨line, rfl⟩ .nil⟩
          rw [write, List.map_cons, List.map_nil, Text.join, List.intercalate_singleton]
          exact hfirst
      | cons second rest =>
          have hend : request.write.getLast? ≠ some '\r' := fun hlast =>
            hrequest.return_notMem_write (List.mem_of_getLast? hlast)
          have hwrite : write (request :: second :: rest) =
              request.write ++ "\n###\n" ++ write (second :: rest) := by
            rw [write, List.map_cons, List.map_cons, Text.join_cons]
            rfl
          -- what is read of the others stands below the first request and a separator
          let count := (Text.lines request.write).length + 1
          refine ⟨request.plainAt line :: again.map (Request.moveDown count), ?_,
            .cons ⟨line, rfl⟩ ?_⟩
          · rw [hwrite, read_eq_of_separated _ _ hend, hfirst, hread, List.map_cons, List.map_map]
            exact congrArg (fun more => Except.ok (_ :: more)) List.map_map
          · rw [List.forall₂_map_right_iff]
            apply hagain.imp
            rintro old new ⟨place, rfl⟩
            exact ⟨place + count, rfl⟩

/-- The normal form of a document is read as the requests of the document, each with its variables,
method, address, headers, body and decoded body, and without directives. -/
theorem read_write_requestsOf (text : Text) {records : List Record}
    (hread : Document.read text = .ok records) :
    ∃ again : List Request,
      Document.read (write (requestsOf records)) = .ok (again.map Record.request) ∧
        List.Forall₂ (fun old new => new = { old with line := new.line, directives := [] })
          (requestsOf records) again := by
  obtain ⟨again, hagain, hsame⟩ := read_write (isWellFormed_of_read hread)
  refine ⟨again, hagain, hsame.imp ?_⟩
  rintro old new ⟨line, rfl⟩
  rfl

/-- A request with a directive comes back without it. -/
theorem read_write_requestsOf_named :
    ∃ (records : List Record) (again : List Request),
      Document.read "# @name a\n@b=1\nPUT /c\nd: e\n\n[1]" = .ok records ∧
      Document.read (write (requestsOf records)) = .ok (again.map Record.request) ∧
        again.map (fun request => request.directives) = [[]] := by
  have hcount : (Document.read "# @name a\n@b=1\nPUT /c\nd: e\n\n[1]").toOption.map
      (fun records => (requestsOf records).length) = some 1 := by decide +kernel
  cases hread : Document.read "# @name a\n@b=1\nPUT /c\nd: e\n\n[1]" with
  | error fault => rw [hread] at hcount; exact nomatch hcount
  | ok records =>
      rw [hread] at hcount
      obtain ⟨again, hagain, hsame⟩ := read_write_requestsOf _ hread
      obtain ⟨old, hold⟩ := List.length_eq_one_iff.mp (Option.some.inj hcount)
      rw [hold] at hsame
      cases hsame with
      | cons hnew hnil =>
          cases hnil
          exact ⟨records, _, rfl, hagain, by rw [hnew]; rfl⟩

end Document

end HttpScript
