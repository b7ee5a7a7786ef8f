import HttpScript.Document.Block
import HttpScript.Proofs.Text.Lines
import HttpScript.Proofs.Text.Trim
import Mathlib.Data.List.TakeDrop

/-!
# Writing lines

Declarations, request lines and headers are written as one line each.  What a line form finds in a
line can be written so, and a line that was written so has the form it was written in: the name ends
at the first character that cannot stand in it, and the rest comes back because it was trimmed.
-/

namespace HttpScript

namespace Text

/-- A trimmed text without a line break: what is left of a line, or of a part of one. -/
structure IsPhrase (text : Text) : Prop extends IsTrimmed text where
  oneLine : IsOneLine text

theorem isPhrase_trim {text : Text} (honeLine : IsOneLine text) : IsPhrase (trim text) where
  toIsTrimmed := isTrimmed_trim text
  oneLine := honeLine.mono fun _ => mem_of_mem_trim

theorem isPhrase_of_forall {text : Text} (hall : ∀ c ∈ text, isBlank c = false) :
    IsPhrase text where
  toIsTrimmed := isTrimmed_of_forall hall
  oneLine := by
    intro c hc
    refine ⟨?_, ?_⟩ <;> rintro rfl <;> exact absurd (hall _ hc) (by decide)

theorem IsOneLine.append {first second : Text} (hfirst : IsOneLine first)
    (hsecond : IsOneLine second) : IsOneLine (first ++ second) := by
  intro c hc
  rcases List.mem_append.mp hc with hc | hc
  · exact hfirst c hc
  · exact hsecond c hc

theorem IsPhrase.append {first second : Text} (hfirst : IsPhrase first) (hsecond : IsPhrase second)
    (between : Text) (hbetween : IsOneLine between) (hfirstNil : first ≠ [])
    (hsecondNil : second ≠ []) : IsPhrase (first ++ between ++ second) where
  toIsTrimmed := hfirst.toIsTrimmed.append hsecond.toIsTrimmed between hfirstNil hsecondNil
  oneLine := (hfirst.oneLine.append hbetween).append hsecond.oneLine

end Text

namespace LineForm

/-! ## Lines in their normal form -/

/-- The mark in front of a name. -/
def writeMark (isGlobal : Bool) : Text :=
  if isGlobal then "@@" else "@"

/-- The line that declares a variable. -/
def writeDeclaration (name : Text) (declared : Variable) : Text :=
  writeMark declared.isGlobal ++ name ++ match declared.value with
    | none => []
    | some value => '=' :: value

/-- The line that begins a request. -/
def writeRequestLine (method url : Text) : Text :=
  method ++ ' ' :: url

/-- The line of a header. -/
def writeHeader (header : Text × Text) : Text :=
  header.1 ++ ':' :: ' ' :: header.2

/-! ## Where a name ends -/

theorem span_append {p : Char → Bool} {name rest : Text} (hname : ∀ c ∈ name, p c = true)
    (hrest : ∀ c ∈ rest.head?, p c = false) : (name ++ rest).span p = (name, rest) := by
  rw [List.span_eq_takeWhile_dropWhile, List.takeWhile_append_of_pos hname,
    List.dropWhile_append_of_pos hname]
  cases rest with
  | nil => rw [List.takeWhile_nil, List.dropWhile_nil, List.append_nil]
  | cons c rest =>
      have hc : ¬p c = true := ne_true_of_eq_false (hrest c rfl)
      rw [List.takeWhile_cons_of_neg hc, List.dropWhile_cons_of_neg hc, List.append_nil]

theorem eq_append_of_span {p : Char → Bool} {text name rest : Text}
    (hspan : text.span p = (name, rest)) :
    text = name ++ rest ∧ ∀ c ∈ name, p c = true := by
  rw [List.span_eq_takeWhile_dropWhile] at hspan
  obtain ⟨rfl, rfl⟩ := Prod.mk.inj hspan
  exact ⟨List.takeWhile_append_dropWhile.symm, fun c hc => List.mem_takeWhile_imp hc⟩

/-! ## Names that are marked -/

theorem splitName_name {isGlobal : Bool} {name rest : Text} (hname : Text.isName name = true)
    (hrest : ∀ c ∈ rest.head?, Text.isWord c = false) :
    splitName isGlobal (name ++ rest) = some ⟨isGlobal, name, rest⟩ := by
  cases name with
  | nil => exact nomatch hname
  | cons c inner =>
      obtain ⟨hstart, hinner⟩ := Bool.and_eq_true_iff.mp hname
      rw [List.cons_append, splitName, if_pos hstart,
        span_append (List.all_eq_true.mp hinner) hrest]

theorem marked?_writeMark (isGlobal : Bool) {name rest : Text} (hname : Text.isName name = true)
    (hrest : ∀ c ∈ rest.head?, Text.isWord c = false) :
    marked? (writeMark isGlobal ++ name ++ rest) = some ⟨isGlobal, name, rest⟩ := by
  rw [← splitName_name hname hrest]
  cases isGlobal with
  | true => rfl
  | false =>
      cases name with
      | nil => exact nomatch hname
      | cons c inner =>
          -- a name does not begin with the mark, so that one mark is not read as two
          have hc : c ≠ '@' := by
            rintro rfl
            exact nomatch hname
          rw [writeMark, if_neg Bool.false_ne_true]
          exact marked?.eq_2 _ fun text heq => hc (List.cons_eq_cons.mp heq).1

theorem splitName_sound {isGlobal : Bool} {text : Text} {marked : Marked}
    (hsplit : splitName isGlobal text = some marked) :
    Text.isName marked.name = true ∧ text = marked.name ++ marked.rest := by
  cases text with
  | nil => exact nomatch hsplit
  | cons c rest =>
      rw [splitName] at hsplit
      split at hsplit
      · next hstart =>
          obtain ⟨inner, after, hspan⟩ : ∃ inner after, rest.span Text.isWord = (inner, after) :=
            ⟨_, _, rfl⟩
          obtain ⟨happend, hword⟩ := eq_append_of_span hspan
          rw [hspan] at hsplit
          obtain rfl := Option.some.inj hsplit
          refine ⟨?_, congrArg (c :: ·) happend⟩
          exact Bool.and_eq_true_iff.mpr ⟨hstart, List.all_eq_true.mpr hword⟩
      · exact nomatch hsplit

theorem marked?_sound {content : Text} {marked : Marked} (hmarked : marked? content = some marked) :
    Text.isName marked.name = true ∧ ∀ c ∈ marked.rest, c ∈ content := by
  unfold marked? at hmarked
  split at hmarked
  · next text =>
      obtain ⟨hname, rfl⟩ := splitName_sound hmarked
      exact ⟨hname, fun c hc => by simp [hc]⟩
  · next text _ =>
      obtain ⟨hname, rfl⟩ := splitName_sound hmarked
      exact ⟨hname, fun c hc => by simp [hc]⟩
  · exact nomatch hmarked

/-! ## Declarations -/

theorem declaration?_writeDeclaration {name : Text} (declared : Variable)
    (hname : Text.isName name = true) (hvalue : ∀ value ∈ declared.value, Text.IsPhrase value) :
    ∃ rest, declaration? (writeDeclaration name declared) =
      some (⟨declared.isGlobal, name, rest⟩, declared.value) := by
  obtain ⟨value, isGlobal⟩ := declared
  cases value with
  | none =>
      refine ⟨[], ?_⟩
      rw [declaration?, writeDeclaration, marked?_writeMark isGlobal hname (by simp)]
      rfl
  | some value =>
      refine ⟨'=' :: value, ?_⟩
      -- the sign ends the name, and no blank character before it is skipped
      have hequals : ∀ c ∈ ('=' :: value).head?, Text.isWord c = false := by
        intro c hc
        rw [← Option.some.inj hc]
        decide
      have htrim : Text.trimStart ('=' :: value) = '=' :: value :=
        Text.trimStart_eq_self fun c hc => by rw [← Option.some.inj hc]; decide
      rw [declaration?, writeDeclaration, marked?_writeMark isGlobal hname hequals]
      simp only [Option.bind_eq_bind, Option.bind_some, htrim, (hvalue value rfl).trim_eq]

theorem declaration?_sound {content : Text} {marked : Marked} {value : Option Text}
    (honeLine : Text.IsOneLine content)
    (hdeclaration : declaration? content = some (marked, value)) :
    Text.isName marked.name = true ∧ ∀ text ∈ value, Text.IsPhrase text := by
  obtain ⟨found, hmarked, hvalue⟩ := Option.bind_eq_some_iff.mp hdeclaration
  obtain ⟨hname, hrest⟩ := marked?_sound hmarked
  split at hvalue
  · obtain ⟨rfl, rfl⟩ := Prod.mk.inj (Option.some.inj hvalue)
    exact ⟨hname, nofun⟩
  · next text hstart =>
      obtain ⟨rfl, rfl⟩ := Prod.mk.inj (Option.some.inj hvalue)
      refine ⟨hname, fun value hvalue => ?_⟩
      rw [← Option.some.inj hvalue]
      refine Text.isPhrase_trim (honeLine.mono fun c hc => hrest c ?_)
      exact (Text.trimStart_suffix found.rest).subset (hstart ▸ List.mem_cons_of_mem '=' hc)
  · exact nomatch hvalue

/-! ## Request lines -/

theorem requestLine?_writeRequestLine {method url : Text} (hmethod : method ≠ [])
    (hupper : ∀ c ∈ method, c.isUpper = true) (hurl : Text.IsTrimmed url) :
    requestLine? (writeRequestLine method url) = some (method, url) := by
  have hspace : ∀ c ∈ (' ' :: url).head?, c.isUpper = false := by
    intro c hc
    rw [← Option.some.inj hc]
    decide
  have hempty : (!method.isEmpty && Text.isBlank ' ') = true := by
    rw [List.isEmpty_eq_false_iff.mpr hmethod]
    decide
  rw [requestLine?, writeRequestLine, span_append hupper hspace]
  simp only [hempty, if_true, Text.trim_cons_of_isBlank (c := ' ') (by decide), hurl.trim_eq]

theorem requestLine?_sound {content method url : Text} (hcontent : Text.IsPhrase content)
    (hrequest : requestLine? content = some (method, url)) :
    method ≠ [] ∧ (∀ c ∈ method, c.isUpper = true) ∧ url ≠ [] ∧ Text.IsPhrase url := by
  unfold requestLine? at hrequest
  obtain ⟨name, rest, hspan⟩ : ∃ name rest, content.span Char.isUpper = (name, rest) :=
    ⟨_, _, rfl⟩
  obtain ⟨happend, hupper⟩ := eq_append_of_span hspan
  rw [hspan] at hrequest
  cases rest with
  | nil => exact nomatch hrequest
  | cons c rest =>
      dsimp only at hrequest
      split at hrequest
      · next hfound =>
          obtain ⟨rfl, rfl⟩ := Prod.mk.inj (Option.some.inj hrequest)
          obtain ⟨hmethod, -⟩ := Bool.and_eq_true_iff.mp hfound
          rw [Bool.not_eq_true'] at hmethod
          refine ⟨List.isEmpty_eq_false_iff.mp hmethod, hupper, fun hnil => ?_, ?_⟩
          · -- the last character of the line belongs to the address and is not blank
            have hlast : (c :: rest).getLast (List.cons_ne_nil c rest) ∈ content.getLast? := by
              rw [happend, List.getLast?_append_of_ne_nil _ (List.cons_ne_nil c rest)]
              exact List.getLast_mem_getLast? _
            have hblank := Text.trim_eq_nil_iff.mp hnil _
              (List.getLast_mem (List.cons_ne_nil c rest))
            rw [hcontent.last _ hlast] at hblank
            exact nomatch hblank
          · refine Text.isPhrase_trim (hcontent.oneLine.mono fun d hd => ?_)
            rw [happend]
            exact List.mem_append_right _ hd
      · exact nomatch hrequest

/-! ## Headers -/

theorem isBlank_eq_false_of_isHeaderChar {c : Char} (hchar : isHeaderChar c = true) :
    Text.isBlank c = false := by
  rcases Bool.or_eq_true_iff.mp hchar with hword | hdash
  · exact Text.isBlank_eq_false_of_isWord hword
  · rw [beq_iff_eq.mp hdash]
    decide

/-- A header without a value loses the blank character after its colon. -/
theorem trim_writeHeader {header : Text × Text} (hname : header.1 ≠ [])
    (hchars : ∀ c ∈ header.1, isHeaderChar c = true) (hvalue : Text.IsTrimmed header.2) :
    ∃ rest, Text.trim (writeHeader header) = header.1 ++ ':' :: rest ∧
      Text.trim rest = header.2 := by
  obtain ⟨name, value⟩ := header
  have hnameTrimmed : Text.IsTrimmed name :=
    Text.isTrimmed_of_forall fun c hc => isBlank_eq_false_of_isHeaderChar (hchars c hc)
  cases value with
  | nil =>
      have hcolon : Text.IsTrimmed [':'] :=
        Text.isTrimmed_of_forall (List.forall_mem_singleton.mpr (by decide))
      have htrimmed := hnameTrimmed.append hcolon [] hname (by simp)
      refine ⟨[], ?_, rfl⟩
      rw [List.append_nil] at htrimmed
      have happend : writeHeader (name, []) = (name ++ [':']) ++ [' '] := by
        rw [List.append_assoc]
        rfl
      rw [happend, Text.trim_append_of_isBlank (name ++ [':']) (by decide), htrimmed.trim_eq]
  | cons c value =>
      have htrimmed := hnameTrimmed.append hvalue (':' :: ' ' :: []) hname (by simp)
      refine ⟨' ' :: c :: value, ?_, ?_⟩
      · rw [List.append_assoc] at htrimmed
        exact htrimmed.trim_eq
      · rw [Text.trim_cons_of_isBlank (c := ' ') (by decide), hvalue.trim_eq]

theorem header?_writeHeader {header : Text × Text} (hname : header.1 ≠ [])
    (hchars : ∀ c ∈ header.1, isHeaderChar c = true) (hvalue : Text.IsTrimmed header.2) :
    header? (Text.trim (writeHeader header)) = some header := by
  obtain ⟨rest, htrim, hrest⟩ := trim_writeHeader hname hchars hvalue
  have hcolon : ∀ c ∈ (':' :: rest).head?, isHeaderChar c = false := by
    intro c hc
    rw [← Option.some.inj hc]
    decide
  have hstart : Text.trimStart (':' :: rest) = ':' :: rest :=
    Text.trimStart_eq_self fun c hc => by rw [← Option.some.inj hc]; decide
  rw [htrim, header?, span_append hchars hcolon]
  simp only [hstart, List.isEmpty_eq_false_iff.mpr hname, Bool.false_eq_true, if_false, hrest]

theorem header?_sound {content : Text} {header : Text × Text} (honeLine : Text.IsOneLine content)
    (hheader : header? content = some header) :
    header.1 ≠ [] ∧ (∀ c ∈ header.1, isHeaderChar c = true) ∧ Text.IsPhrase header.2 := by
  unfold header? at hheader
  obtain ⟨name, rest, hspan⟩ : ∃ name rest, content.span isHeaderChar = (name, rest) :=
    ⟨_, _, rfl⟩
  obtain ⟨happend, hchars⟩ := eq_append_of_span hspan
  rw [hspan] at hheader
  dsimp only at hheader
  split at hheader
  · next value hstart =>
      split at hheader
      · exact nomatch hheader
      · next hname =>
          obtain rfl := Option.some.inj hheader
          refine ⟨fun hnil => hname (List.isEmpty_iff.mpr hnil), hchars, ?_⟩
          refine Text.isPhrase_trim (honeLine.mono fun c hc => ?_)
          rw [happend]
          refine List.mem_append_right _ ((Text.trimStart_suffix rest).subset ?_)
          rw [hstart]
          exact List.mem_cons_of_mem ':' hc
  · exact nomatch hheader

/-! ## What a line is not, by its first character -/

theorem comment?_eq_none {content : Text} (hfirst : ∀ c ∈ content.head?, c ≠ '#' ∧ c ≠ '/') :
    comment? content = none := by
  unfold comment?
  split
  · rfl
  · exact absurd rfl (hfirst '#' rfl).1
  · exact absurd rfl (hfirst '/' rfl).2
  · rfl

theorem declaration?_eq_none {content : Text} (hfirst : ∀ c ∈ content.head?, c ≠ '@') :
    declaration? content = none := by
  have hmarked : marked? content = none := by
    unfold marked?
    split
    · exact absurd rfl (hfirst '@' rfl)
    · exact absurd rfl (hfirst '@' rfl)
    · rfl
  rw [declaration?, hmarked]
  rfl

theorem isSeparator_eq_false {content : Text} (hfirst : ∀ c ∈ content.head?, c ≠ '#') :
    isSeparator content = false := by
  rw [isSeparator, decide_eq_false_iff_not]
  rintro rfl
  exact hfirst '#' rfl rfl

/-- A comment is no header: its first character cannot stand in a name. -/
theorem header?_eq_none_of_isComment {content : Text} (hcomment : isComment content = true) :
    header? content = none := by
  unfold isComment comment? at hcomment
  split at hcomment
  · exact nomatch hcomment
  · rfl
  · rfl
  · exact nomatch hcomment

theorem comment?_writeDeclaration (name : Text) (declared : Variable) :
    comment? (writeDeclaration name declared) = none := by
  obtain ⟨value, isGlobal⟩ := declared
  apply comment?_eq_none
  intro c hc
  have hat : c = '@' := by
    cases isGlobal <;> exact (Option.some.inj hc).symm
  rw [hat]
  decide

theorem head?_writeRequestLine {method : Text} (hmethod : method ≠ [])
    (hupper : ∀ c ∈ method, c.isUpper = true) (url : Text) :
    ∀ c ∈ (writeRequestLine method url).head?, c.isUpper = true := by
  intro c hc
  rw [writeRequestLine, List.head?_append_of_ne_nil _ hmethod] at hc
  exact hupper c (List.mem_of_mem_head? hc)

theorem isComment_writeHeader {header : Text × Text} (hname : header.1 ≠ [])
    (hchars : ∀ c ∈ header.1, isHeaderChar c = true) (hvalue : Text.IsTrimmed header.2) :
    isComment (Text.trim (writeHeader header)) = false := by
  obtain ⟨rest, htrim, -⟩ := trim_writeHeader hname hchars hvalue
  rw [isComment, Option.isSome_eq_false_iff, Option.isNone_iff_eq_none, htrim]
  apply comment?_eq_none
  intro c hc
  rw [List.head?_append_of_ne_nil _ hname] at hc
  have hchar := hchars c (List.mem_of_mem_head? hc)
  refine ⟨?_, ?_⟩ <;> rintro rfl <;> exact absurd hchar (by decide)

/-! ## Written lines are trimmed -/

private theorem isPhrase_mark_append (isGlobal : Bool) {name : Text}
    (hname : Text.isName name = true) : Text.IsPhrase (writeMark isGlobal ++ name) := by
  have hat : Text.isBlank '@' = false := by decide
  have hmark : ∀ c ∈ writeMark isGlobal, Text.isBlank c = false := by
    cases isGlobal with
    | false => exact List.forall_mem_singleton.mpr hat
    | true => exact List.forall_mem_cons.mpr ⟨hat, List.forall_mem_singleton.mpr hat⟩
  refine Text.isPhrase_of_forall fun c hc => ?_
  rcases List.mem_append.mp hc with hc | hc
  · exact hmark c hc
  · exact Text.isBlank_eq_false_of_mem_name hname c hc

theorem isPhrase_writeDeclaration {name : Text} (declared : Variable)
    (hname : Text.isName name = true) (hvalue : ∀ value ∈ declared.value, Text.IsPhrase value) :
    Text.IsPhrase (writeDeclaration name declared) := by
  obtain ⟨value, isGlobal⟩ := declared
  have hmark := isPhrase_mark_append isGlobal hname
  have hmarkNil : writeMark isGlobal ++ name ≠ [] := by
    cases isGlobal <;> exact List.cons_ne_nil _ _
  have hequals : Text.IsPhrase ['='] :=
    Text.isPhrase_of_forall (List.forall_mem_singleton.mpr (by decide))
  cases value with
  | none =>
      rw [writeDeclaration, List.append_nil]
      exact hmark
  | some value =>
      rw [writeDeclaration]
      by_cases hnil : value = []
      · have hphrase := hmark.append hequals [] nofun hmarkNil (by simp)
        rwa [List.append_nil, ← hnil] at hphrase
      · have hphrase := hmark.append (hvalue value rfl) ['='] hequals.oneLine hmarkNil hnil
        rwa [List.append_assoc] at hphrase

theorem isPhrase_writeRequestLine {method url : Text} (hmethod : method ≠ [])
    (hupper : ∀ c ∈ method, c.isUpper = true) (hurlNil : url ≠ []) (hurl : Text.IsPhrase url) :
    Text.IsPhrase (writeRequestLine method url) := by
  have hspace : Text.IsOneLine [' '] := List.forall_mem_singleton.mpr (by decide)
  have hphrase := (Text.isPhrase_of_forall fun c hc =>
    Text.isBlank_eq_false_of_isUpper (hupper c hc)).append hurl [' '] hspace hmethod hurlNil
  rwa [List.append_assoc] at hphrase

theorem isOneLine_writeHeader {header : Text × Text}
    (hchars : ∀ c ∈ header.1, isHeaderChar c = true) (hvalue : Text.IsPhrase header.2) :
    Text.IsOneLine (writeHeader header) := by
  have hcolon : Text.IsOneLine [':', ' '] :=
    List.forall_mem_cons.mpr ⟨by decide, List.forall_mem_singleton.mpr (by decide)⟩
  have hname := Text.isPhrase_of_forall fun c hc =>
    isBlank_eq_false_of_isHeaderChar (hchars c hc)
  exact hname.oneLine.append (hcolon.append hvalue.oneLine)

end LineForm

end HttpScript
