import HttpScript.Proofs.Document.LineForms
import HttpScript.Proofs.Document.Reading
import HttpScript.Proofs.Table
import HttpScript.Proofs.Text.Contents

/-!
# Records that were read

What every block and every request of a document has in common, whatever the document looks like.
Names, values and addresses are trimmed parts of lines.  The body of a request, trimmed as a whole,
holds no separator and more than comments, and begins with a line that is no header: the header
section would have gone on.
-/

namespace HttpScript

/-- Variables that can be declared: every name once, and trimmed values. -/
structure IsDeclared (declared : Table Variable) : Prop where
  nodup : declared.names.Nodup
  name : ∀ entry ∈ declared, Text.isName entry.1 = true
  value : ∀ entry ∈ declared, ∀ value ∈ entry.2.value, Text.IsPhrase value

/-- A header that can stand on a line. -/
structure IsHeader (header : Text × Text) : Prop where
  name_ne_nil : header.1 ≠ []
  name : ∀ c ∈ header.1, LineForm.isHeaderChar c = true
  value : Text.IsPhrase header.2

/-- A text that can stand after the headers of a request. -/
structure IsBody (body : Text) : Prop where
  trimmed : Text.IsTrimmed body
  return_notMem : '\r' ∉ body
  not_separator : ∀ content ∈ Text.contents body, LineForm.isSeparator content = false
  not_header : ∀ content ∈ (Text.contents body).head?, LineForm.header? content = none
  not_onlyComments : ∃ content ∈ Text.contents body, LineForm.isComment content = false

/-- A request that can be read: each part of it can stand where it is written, and the body is
decoded as it has to be. -/
structure Request.IsWellFormed (request : Request) : Prop where
  declared : IsDeclared request.declared
  method_ne_nil : request.method ≠ []
  method : ∀ c ∈ request.method, c.isUpper = true
  url_ne_nil : request.url ≠ []
  url : Text.IsPhrase request.url
  header : ∀ header ∈ request.headers, IsHeader header
  body : ∀ body ∈ request.body, IsBody body
  decoded : ∃ line, Document.decodeBody { request with bodyJson := none } line = .ok request

/-- A record that can be read. -/
def Record.IsWellFormed : Record → Prop
  | .bare inner => IsDeclared inner.declared
  | .request inner => inner.IsWellFormed

theorem Record.IsWellFormed.declared {record : Record} (hrecord : record.IsWellFormed) :
    IsDeclared record.block.declared := by
  cases record with
  | bare inner => exact hrecord
  | request inner => exact Request.IsWellFormed.declared hrecord

namespace IsDeclared

theorem nil : IsDeclared [] :=
  ⟨List.nodup_nil, nofun, nofun⟩

theorem set {declared : Table Variable} (hdeclared : IsDeclared declared) {name : Text}
    (hname : Text.isName name = true) {added : Variable}
    (hvalue : ∀ value ∈ added.value, Text.IsPhrase value) :
    IsDeclared (Table.set declared name added) where
  nodup := Table.nodup_names_set hdeclared.nodup name added
  name := by
    intro entry hentry
    rcases Table.mem_of_mem_set hentry with hentry | rfl
    · exact hdeclared.name entry hentry
    · exact hname
  value := by
    intro entry hentry
    rcases Table.mem_of_mem_set hentry with hentry | rfl
    · exact hdeclared.value entry hentry
    · exact hvalue

end IsDeclared

namespace Document

/-- Lines without a break in them, such as the lines of a text. -/
def AreLines (lines : List Line) : Prop :=
  ∀ line ∈ lines, Text.IsOneLine line.raw

theorem AreLines.mono {lines part : List Line} (hlines : AreLines lines) (hpart : part ⊆ lines) :
    AreLines part :=
  fun line hline => hlines line (hpart hline)

theorem areLines_numberFrom {raws : List Text} (honeLine : ∀ raw ∈ raws, Text.IsOneLine raw)
    (number : Nat) : AreLines (Line.numberFrom number raws) := by
  induction raws generalizing number with
  | nil => exact nofun
  | cons raw rest ih =>
      intro line hline
      rcases List.mem_cons.mp hline with rfl | hline
      · exact honeLine raw List.mem_cons_self
      · exact ih (fun other hother => honeLine other (List.mem_cons_of_mem raw hother)) _ line hline

theorem areLines_ofText (text : Text) : AreLines (Line.ofText text) := by
  rw [Line.ofText]
  split
  · exact List.forall_mem_nil _
  · exact areLines_numberFrom (Text.isOneLine_of_mem_lines text) 1

theorem isPhrase_content {line : Line} (honeLine : Text.IsOneLine line.raw) :
    Text.IsPhrase line.content :=
  Text.isPhrase_trim honeLine

/-! ## Variables and headers -/

theorem isDeclared_of_readPreamble {block stopped : Block} {lines left : List Line}
    (hlines : AreLines lines) (hdeclared : IsDeclared block.declared)
    (hread : readPreamble block lines = .ok (stopped, left)) : IsDeclared stopped.declared := by
  refine readPreamble_preserves (fun block => IsDeclared block.declared) hdeclared
    (fun _ _ _ _ hblock => hblock) (fun line hline block marked value hfound hblock => ?_) hread
  obtain ⟨hname, hvalue⟩ :=
    LineForm.declaration?_sound (isPhrase_content (hlines line hline)).oneLine hfound
  exact hblock.set hname hvalue

theorem isHeader_of_readHeaders {start lines : List Line} (seenBlank : Bool)
    (hlines : AreLines lines) :
    ∀ header ∈ (readHeaders start seenBlank lines).1, IsHeader header := by
  fun_induction readHeaders start seenBlank lines with
  | case1 => exact fun header hheader => absurd hheader List.not_mem_nil
  | case2 start _ line rest _ ih => exact ih (hlines.mono (List.subset_cons_self line rest))
  | case3 start _ line rest _ _ ih => exact ih (hlines.mono (List.subset_cons_self line rest))
  | case4 start _ line rest _ _ found hfound headers left hread ih =>
      rw [hread] at ih
      intro header hheader
      rcases List.mem_cons.mp hheader with rfl | hheader
      · obtain ⟨hnil, hname, hvalue⟩ := LineForm.header?_sound
          (isPhrase_content (hlines line List.mem_cons_self)).oneLine hfound
        exact ⟨hnil, hname, hvalue⟩
      · exact ih (hlines.mono (List.subset_cons_self line rest)) header hheader
  | case5 => exact fun header hheader => absurd hheader List.not_mem_nil

/-! ## Bodies -/

/-- Lines that headers may stand behind: they are blank or comments. -/
def ArePassed (lines : List Line) : Prop :=
  ∀ line ∈ lines, line.isBlank = true ∨ LineForm.isComment line.content = true

theorem header?_eq_none_of_passed {passed after : List Line} (hpassed : ArePassed passed)
    (hafter : ∀ line ∈ (after.dropWhile Line.isBlank).head?, LineForm.header? line.content = none) :
    ∀ line ∈ ((passed ++ after).dropWhile Line.isBlank).head?,
      LineForm.header? line.content = none := by
  intro line hline
  rw [List.dropWhile_append] at hline
  split at hline
  · exact hafter line hline
  · next hnil =>
      -- the first line that is not blank was passed, so it is a comment
      have hne : passed.dropWhile Line.isBlank ≠ [] := fun heq => hnil (List.isEmpty_iff.mpr heq)
      rw [List.head?_append_of_ne_nil _ hne] at hline
      have hmem := (List.dropWhile_suffix Line.isBlank).subset (List.mem_of_mem_head? hline)
      have hblank := List.head?_dropWhile_not Line.isBlank passed
      rw [show (passed.dropWhile Line.isBlank).head? = some line from hline] at hblank
      change line.isBlank = false at hblank
      rcases hpassed line hmem with htrue | hcomment
      · rw [htrue] at hblank
        exact nomatch hblank
      · exact LineForm.header?_eq_none_of_isComment hcomment

/-- After the header section no header follows. -/
theorem header?_eq_none_of_readHeaders {passed : List Line} (hpassed : ArePassed passed)
    (seenBlank : Bool) (lines : List Line) :
    ∀ line ∈ ((readHeaders (passed ++ lines) seenBlank lines).2.dropWhile Line.isBlank).head?,
      LineForm.header? line.content = none := by
  -- what was passed since the last header is left over with the rest, so it is carried along
  induction lines generalizing passed seenBlank with
  | nil =>
      refine header?_eq_none_of_passed hpassed fun line hline => ?_
      cases hline
  | cons line rest ih =>
      have hcons (hline : line.isBlank = true ∨ LineForm.isComment line.content = true) :
          ArePassed (passed ++ [line]) := by
        intro other hother
        rcases List.mem_append.mp hother with hother | hother
        · exact hpassed other hother
        · rwa [List.mem_singleton.mp hother]
      rw [readHeaders]
      split
      · next hblank =>
          rw [List.append_cons]
          exact ih (hcons (.inl hblank)) true
      split
      · next hcomment =>
          rw [List.append_cons]
          exact ih (hcons (.inr (Bool.and_eq_true_iff.mp hcomment).2)) false
      split
      · exact ih (fun other hother => absurd hother List.not_mem_nil) false
      · next hblank _ _ hheader =>
          refine header?_eq_none_of_passed hpassed fun other hother => ?_
          rw [List.dropWhile_cons_of_neg hblank] at hother
          rw [← Option.some.inj hother, hheader]

theorem AreLines.raw {lines : List Line} (hlines : AreLines lines) :
    ∀ raw ∈ lines.map Line.raw, Text.IsOneLine raw := by
  intro raw hraw
  obtain ⟨line, hline, rfl⟩ := List.mem_map.mp hraw
  exact hlines line hline

/-- The contents of a body are what is left of its lines. -/
theorem contents_bodyText {lines : List Line} (hlines : AreLines lines) :
    Text.contents (bodyText lines) =
      (lines.map Line.content).filter fun content => !content.isEmpty := by
  cases lines with
  | nil => rfl
  | cons line rest =>
      have hnil : (line :: rest).map Line.raw ≠ [] := List.cons_ne_nil _ _
      rw [bodyText, Text.contents_trim, Text.contents, Text.lines_join hnil hlines.raw,
        List.map_map]
      rfl

theorem return_notMem_bodyText {lines : List Line} (hlines : AreLines lines) :
    '\r' ∉ bodyText lines := by
  intro hmem
  rcases Text.mem_of_mem_join (Text.mem_of_mem_trim hmem) with hbreak | ⟨raw, hraw, hc⟩
  · exact absurd hbreak (by decide)
  · exact (hlines.raw raw hraw '\r' hc).1 rfl

theorem splitBody_subset (lines : List Line) : (splitBody lines).1 ⊆ lines :=
  List.Subset.trans (List.takeWhile_prefix _).subset (List.dropWhile_suffix Line.isBlank).subset

theorem isSeparator_eq_false_of_mem_splitBody {lines : List Line} {line : Line}
    (hline : line ∈ (splitBody lines).1) : line.isSeparator = false := by
  have hinside := List.mem_takeWhile_imp (p := fun line : Line => !line.isSeparator) hline
  rwa [Bool.not_eq_true'] at hinside

/-- The contents of a body begin with the first line that is not blank. -/
theorem head?_contents_splitBody (lines : List Line) :
    ∀ content ∈ (((splitBody lines).1.map Line.content).filter fun content =>
        !content.isEmpty).head?,
      ∃ line ∈ (lines.dropWhile Line.isBlank).head?, content = line.content := by
  intro content hcontent
  rw [splitBody] at hcontent
  dsimp only at hcontent
  cases hdrop : lines.dropWhile Line.isBlank with
  | nil =>
      rw [hdrop] at hcontent
      exact nomatch hcontent
  | cons first rest =>
      have hblank := List.head?_dropWhile_not Line.isBlank lines
      rw [hdrop] at hblank hcontent
      change first.content.isEmpty = false at hblank
      refine ⟨first, rfl, ?_⟩
      rw [List.takeWhile_cons] at hcontent
      split at hcontent
      · rw [List.map_cons, List.filter_cons, hblank] at hcontent
        exact (Option.some.inj hcontent).symm
      · exact nomatch hcontent

theorem isBody_of_readBody {lines : List Line} (hlines : AreLines lines)
    (hheader : ∀ line ∈ (lines.dropWhile Line.isBlank).head?,
      LineForm.header? line.content = none) :
    ∀ body ∈ readBody (splitBody lines).1, IsBody body := by
  intro body hbody
  have hbodyLines : AreLines (splitBody lines).1 := hlines.mono (splitBody_subset lines)
  have hcontents := contents_bodyText hbodyLines
  unfold readBody at hbody
  dsimp only at hbody
  split at hbody
  · exact nomatch hbody
  · next hfound =>
      obtain rfl := Option.some.inj hbody
      rw [Bool.or_eq_true, not_or, Bool.not_eq_true, Bool.not_eq_true] at hfound
      -- trimming the body drops no line that is not blank, so what is known of the lines it was
      -- read from is known of its own
      refine ⟨Text.isTrimmed_trim _, return_notMem_bodyText hbodyLines, ?_, ?_, ?_⟩
      · intro content hcontent
        rw [hcontents] at hcontent
        obtain ⟨line, hline, rfl⟩ := List.mem_map.mp (List.mem_of_mem_filter hcontent)
        exact isSeparator_eq_false_of_mem_splitBody hline
      · intro content hcontent
        rw [hcontents] at hcontent
        obtain ⟨line, hline, rfl⟩ := head?_contents_splitBody lines content hcontent
        exact hheader line hline
      · obtain ⟨line, hline, hother⟩ := List.all_eq_false.mp hfound.2
        rw [Bool.not_eq_true, Bool.or_eq_false_iff] at hother
        refine ⟨line.content, ?_, hother.2⟩
        rw [hcontents, List.mem_filter, Bool.not_eq_true']
        exact ⟨List.mem_map_of_mem hline, hother.1⟩

/-! ## Whole requests -/

/-- Decoding a body changes nothing but what the body is decoded to. -/
theorem exists_of_decodeBody {request decoded : Request} {line : Nat}
    (hdecode : decodeBody request line = .ok decoded) :
    ∃ bodyJson, decoded = { request with bodyJson } := by
  unfold decodeBody at hdecode
  split at hdecode
  · exact ⟨request.bodyJson, (Except.ok.inj hdecode).symm⟩
  · split at hdecode
    · split at hdecode
      · next value _ => exact ⟨some value, (Except.ok.inj hdecode).symm⟩
      · exact nomatch hdecode
    · exact ⟨request.bodyJson, (Except.ok.inj hdecode).symm⟩

theorem isWellFormed_of_readRequest {block : Block} {line : Line} {rest left : List Line}
    {request : Request} (hblock : IsDeclared block.declared) (hline : Text.IsOneLine line.raw)
    (hrest : AreLines rest) (hread : readRequest block line rest = .ok (request, left)) :
    request.IsWellFormed := by
  unfold readRequest at hread
  cases hfound : LineForm.requestLine? line.content with
  | none => rw [hfound] at hread; exact nomatch hread
  | some found =>
      rw [hfound] at hread
      obtain ⟨method, url⟩ := found
      obtain ⟨hmethodNil, hmethod, hurlNil, hurl⟩ :=
        LineForm.requestLine?_sound (isPhrase_content hline) hfound
      obtain ⟨decoded, hdecode, hpair⟩ := exists_of_map_eq_ok hread
      obtain ⟨rfl, -⟩ := Prod.mk.inj hpair
      obtain ⟨bodyJson, rfl⟩ := exists_of_decodeBody hdecode
      have hleft : AreLines (readHeaders rest false rest).2 :=
        hrest.mono (readHeaders_suffix false (List.suffix_refl rest)).subset
      have hbody := isBody_of_readBody hleft (@header?_eq_none_of_readHeaders [] nofun false rest)
      exact
        { declared := hblock
          method_ne_nil := hmethodNil
          method := hmethod
          url_ne_nil := hurlNil
          url := hurl
          header := isHeader_of_readHeaders false hrest
          body := hbody
          decoded := ⟨_, hdecode⟩ }

theorem isWellFormed_of_readRecord {first : Line} {rest left : List Line}
    {record : Option Record} (hlines : AreLines (first :: rest))
    (hread : readRecord first rest = .ok (record, left)) :
    ∀ found ∈ record, found.IsWellFormed := by
  have hbare {block : Block} (hblock : IsDeclared block.declared) :
      ∀ found ∈ bareRecord block, found.IsWellFormed := by
    intro found hfound
    rw [bareRecord] at hfound
    split at hfound
    · exact nomatch hfound
    · rw [← Option.some.inj hfound]
      exact hblock
  obtain ⟨block, after, hpreamble, hread⟩ := readRecord_eq_ok hread
  have hblock := isDeclared_of_readPreamble hlines IsDeclared.nil hpreamble
  have hafter : AreLines after := hlines.mono (readPreamble_suffix hpreamble).subset
  obtain ⟨rfl, -⟩ | ⟨line, others, request, remaining, rfl, -, hrequest, rfl, -⟩ := hread
  · exact hbare hblock
  · intro found hfound
    rw [← Option.some.inj hfound]
    exact isWellFormed_of_readRequest hblock (hafter line List.mem_cons_self)
      (hafter.mono (List.subset_cons_self line others)) hrequest

theorem isWellFormed_of_readRecords {lines : List Line} (hlines : AreLines lines) :
    ∀ record ∈ (readRecords lines).1, record.IsWellFormed := by
  fun_induction readRecords lines with
  | case1 => exact nofun
  | case2 => exact nofun
  | case3 first rest found left hread _ records fault hrecords ih =>
      intro record hrecord
      rcases List.mem_append.mp hrecord with hrecord | hrecord
      · exact isWellFormed_of_readRecord hlines hread record (Option.mem_toList.mp hrecord)
      · have hleft : AreLines left :=
          hlines.mono ((readRecord_suffix hread).trans (List.suffix_cons first rest)).subset
        have hwellFormed := ih hleft
        rw [hrecords] at hwellFormed
        exact hwellFormed record hrecord

/-- Every record of a document that can be read is well-formed. -/
theorem isWellFormed_of_mem_read {text : Text} {records : List Record}
    (hread : Document.read text = .ok records) : ∀ record ∈ records, record.IsWellFormed := by
  have hwellFormed := isWellFormed_of_readRecords (areLines_ofText text)
  rwa [readRecords_of_read hread] at hwellFormed

/-- Every request of a document that can be read is well-formed. -/
theorem isWellFormed_of_read {text : Text} {records : List Record}
    (hread : Document.read text = .ok records) :
    ∀ request ∈ requestsOf records, request.IsWellFormed := by
  intro request hrequest
  obtain ⟨record, hrecord, hfound⟩ := List.mem_filterMap.mp hrequest
  have hwellFormed := isWellFormed_of_mem_read hread record hrecord
  cases record with
  | bare inner => exact nomatch hfound
  | request inner => rwa [← Option.some.inj hfound]

end Document

end HttpScript
