import HttpScript.Fault
import HttpScript.Proofs.Query.Names
import HttpScript.Proofs.Text.Occurrences

/-!
# Texts that are no queries

A text is read segment by segment (`Reads`), and each segment takes a character at least.  So
reading stops, and unless it has come to the end of the text, it has come to one of two places.

* What is left begins no segment (`BeginsNoSegment`): a character that is no dot and no bracket, a
  dot without a name, or a bracket that is not closed.  The text is reported as no query.
* What is left begins with a slice of which a bound is a minus sign without digits
  (`BeginsLoneSlice`).  It has the form of a slice, so it is not taken for a key.  But the bound is
  no number, and this is not reported as the fault of a query.
-/

namespace HttpScript

namespace Query

/-- A text is read as segments up to what is left of it. -/
inductive Reads : Text → List Segment → Text → Prop
  | nil (text : Text) : Reads text [] text
  | cons {text middle rest : Text} {segments more : List Segment}
      (hsegment : readSegment text = .ok (segments, middle)) (hmore : Reads middle more rest) :
      Reads text (segments ++ more) rest

/-- A text with a beginning that is no segment. -/
inductive BeginsNoSegment : Text → Prop
  | other {c : Char} (hdot : c ≠ '.') (hopen : c ≠ '[') (rest : Text) : BeginsNoSegment (c :: rest)
  | nameless {rest : Text} (hname : ∀ c ∈ rest.head?, c = '[' ∨ c = ']') :
      BeginsNoSegment ('.' :: rest)
  | unclosed {rest : Text} (hclose : ']' ∉ rest) : BeginsNoSegment ('[' :: rest)

/-- A slice of which a bound is a minus sign without digits. -/
def IsLoneSlice (content : Text) : Prop :=
  ∃ start stop, content = start ++ ':' :: stop ∧ isBound start = true ∧ isBound stop = true ∧
    (start = ['-'] ∨ stop = ['-'])

/-- A text that begins with such a slice, in brackets. -/
def BeginsLoneSlice (text : Text) : Prop :=
  ∃ content more, text = '[' :: (content ++ ']' :: more) ∧ ']' ∉ content ∧
    IsLoneSlice (Text.trim content)

variable {text rest content : Text} {fault : ReadFault}

/-! ## Slices -/

theorem map_toNat?_eq_none_iff {digits : Text} (hdigits : digits.all Text.isDigit = true)
    (sign : Int → Int) :
    ((Text.toNat? digits).map fun n => sign n) = none ↔ digits = [] := by
  rw [← Text.toNat?_eq_none_iff hdigits]
  cases Text.toNat? digits <;> simp

/-- A bound is a number unless no digits are in it. -/
theorem toInt?_eq_none_iff {bound : Text} (hbound : isBound bound = true) :
    Text.toInt? bound = none ↔ bound = [] ∨ bound = ['-'] := by
  unfold isBound at hbound
  split at hbound
  · rw [Text.toInt?]
    exact (map_toNat?_eq_none_iff hbound Neg.neg).trans (by simp)
  · next hminus =>
      rw [Text.toInt?]
      · refine (map_toNat?_eq_none_iff hbound id).trans ⟨.inl, fun heq => ?_⟩
        exact heq.resolve_right (hminus [])
      · exact hminus

theorem readBound_eq_error_iff {bound : Text} (hbound : isBound bound = true) :
    readBound bound = .error fault ↔ fault = .loneSign ∧ bound = ['-'] := by
  rw [readBound]
  by_cases hnil : bound = []
  · subst hnil
    exact iff_of_false (fun heq => by cases heq) (fun hlone => by cases hlone.2)
  · rw [if_neg (by simpa using hnil)]
    cases hread : Text.toInt? bound with
    | some n =>
        refine iff_of_false (fun heq => by cases heq) (fun hlone => ?_)
        rw [(toInt?_eq_none_iff hbound).mpr (.inr hlone.2)] at hread
        cases hread
    | none =>
        have hlone := ((toInt?_eq_none_iff hbound).mp hread).resolve_left hnil
        simp [hlone, eq_comm]

theorem slice_eq_error_iff {start stop : Text} (hstart : isBound start = true)
    (hstop : isBound stop = true) :
    (do return Segment.slice (← readBound start) (← readBound stop)) = .error fault ↔
      fault = .loneSign ∧ (start = ['-'] ∨ stop = ['-']) := by
  cases hfirst : readBound start with
  | error found =>
      obtain ⟨rfl, hlone⟩ := (readBound_eq_error_iff hstart).mp hfirst
      change Except.error ReadFault.loneSign = Except.error fault ↔ _
      simp [hlone, eq_comm]
  | ok first =>
      have hnotFirst : start ≠ ['-'] := by
        intro hlone
        rw [(readBound_eq_error_iff hstart).mpr ⟨rfl, hlone⟩] at hfirst
        cases hfirst
      cases hsecond : readBound stop with
      | error found =>
          obtain ⟨rfl, hlone⟩ := (readBound_eq_error_iff hstop).mp hsecond
          change Except.error ReadFault.loneSign = Except.error fault ↔ _
          simp [hlone, eq_comm]
      | ok second =>
          refine iff_of_false (fun heq => by cases heq) (fun ⟨_, hlone⟩ => ?_)
          rcases hlone with hlone | hlone
          · exact hnotFirst hlone
          · rw [(readBound_eq_error_iff hstop).mpr ⟨rfl, hlone⟩] at hsecond
            cases hsecond

/-- What stands in a bracket without quotes is a segment, but for one kind of slice. -/
theorem bracketSegment_eq_error_iff :
    bracketSegment content = .error fault ↔ fault = .loneSign ∧ IsLoneSlice content := by
  by_cases hcolon : ':' ∈ content
  · obtain ⟨start, stop, rfl, hstart⟩ := List.eq_append_cons_of_mem hcolon
    have hsame {start' stop' : Text} (heq : start ++ ':' :: stop = start' ++ ':' :: stop')
        (hbound : isBound start' = true) : start' = start ∧ stop' = stop := by
      have hsplit := Text.splitAt?_append hstart stop
      rw [heq, Text.splitAt?_append (notMem_of_isBound hbound (by decide) (by decide))] at hsplit
      exact Prod.mk.inj (Option.some.inj hsplit)
    rw [bracketSegment_of_colon hstart]
    by_cases hbounds : (isBound start && isBound stop) = true
    · obtain ⟨hstartBound, hstopBound⟩ := Bool.and_eq_true_iff.mp hbounds
      rw [if_pos hbounds, slice_eq_error_iff hstartBound hstopBound]
      refine and_congr_right fun _ => ⟨fun hlone => ?_, ?_⟩
      · exact ⟨start, stop, rfl, hstartBound, hstopBound, hlone⟩
      · rintro ⟨start', stop', heq, hbound, -, hlone⟩
        obtain ⟨rfl, rfl⟩ := hsame heq hbound
        exact hlone
    · rw [if_neg hbounds]
      refine iff_of_false (fun heq => ?_) ?_
      · split at heq <;> cases heq
      · rintro ⟨-, start', stop', heq, hbound, hbound', -⟩
        obtain ⟨rfl, rfl⟩ := hsame heq hbound
        exact hbounds (Bool.and_eq_true_iff.mpr ⟨hbound, hbound'⟩)
  · refine iff_of_false (fun heq => ?_) ?_
    · rw [bracketSegment, Text.splitAt?_eq_none hcolon] at heq
      split at heq
      · cases heq
      · dsimp only at heq
        split at heq <;> cases heq
    · rintro ⟨-, start, stop, rfl, -⟩
      exact hcolon (List.mem_append_right _ List.mem_cons_self)

/-! ## Names -/

theorem splitName_eq_none_iff :
    splitName text = none ↔ ∀ c ∈ text.head?, c = '[' ∨ c = ']' ∨ c = '.' := by
  cases text with
  | nil => exact iff_of_true rfl fun c hc => by cases hc
  | cons c rest =>
      by_cases hstar : c = '*'
      · subst hstar
        exact iff_of_false (fun heq => by cases heq) fun hhead => absurd (hhead '*' rfl) (by decide)
      · have hsplit : splitName (c :: rest) = none ↔ isNameChar c = false := by
          rw [splitName]
          · rw [List.span_eq_takeWhile_dropWhile, List.takeWhile_cons]
            cases isNameChar c <;> simp
          · intro rest heq
            exact hstar (List.cons.inj heq).1
        rw [hsplit]
        simp [isNameChar]
        tauto

theorem splitName_suffix {name : Text} (hname : splitName text = some (name, rest)) :
    rest <:+ text := by
  unfold splitName at hname
  split at hname
  · obtain ⟨-, rfl⟩ := Prod.mk.inj (Option.some.inj hname)
    exact List.suffix_cons _ _
  · rw [List.span_eq_takeWhile_dropWhile] at hname
    dsimp only at hname
    split at hname
    · cases hname
    · obtain ⟨-, rfl⟩ := Prod.mk.inj (Option.some.inj hname)
      exact List.dropWhile_suffix _

/-- A quoted name stands between its quotes, and the bracket is closed behind it. -/
theorem exists_of_splitQuotedName {name : Text} (hname : splitQuotedName text = some (name, rest)) :
    ∃ quote after, (quote = '\'' ∨ quote = '"') ∧
      Text.trimStart text = quote :: (name ++ quote :: after) ∧
      Text.trimStart after = ']' :: rest := by
  have hquoted {quote : Char} {inside : Text}
      (hsplit : splitQuoted quote inside = some (name, rest)) :
      ∃ after, inside = name ++ quote :: after ∧ Text.trimStart after = ']' :: rest := by
    obtain ⟨⟨found, after⟩, hfound, hclose⟩ := Option.bind_eq_some_iff.mp hsplit
    dsimp only at hclose
    split at hclose
    · next heq =>
        obtain ⟨rfl, rfl⟩ := Prod.mk.inj (Option.some.inj hclose)
        exact ⟨after, (Text.splitAt?_eq_some_iff.mp hfound).2, heq⟩
    · cases hclose
  rw [splitQuotedName] at hname
  split at hname
  · next inside heq =>
      obtain ⟨after, rfl, hclose⟩ := hquoted hname
      exact ⟨_, after, .inl rfl, heq, hclose⟩
  · next inside heq =>
      obtain ⟨after, rfl, hclose⟩ := hquoted hname
      exact ⟨_, after, .inr rfl, heq, hclose⟩
  · cases hname

theorem splitQuotedName_suffix {name : Text} (hname : splitQuotedName text = some (name, rest)) :
    ']' :: rest <:+ text := by
  obtain ⟨quote, after, -, hopen, hclose⟩ := exists_of_splitQuotedName hname
  calc ']' :: rest <:+ after := hclose ▸ Text.trimStart_suffix after
    _ <:+ quote :: after := List.suffix_cons _ _
    _ <:+ name ++ quote :: after := List.suffix_append _ _
    _ <:+ quote :: (name ++ quote :: after) := List.suffix_cons _ _
    _ <:+ text := hopen ▸ Text.trimStart_suffix text

/-! ## Segments -/

theorem readSegment_of_beginsNoSegment (hbegins : BeginsNoSegment text) :
    readSegment text = .error .malformed := by
  cases hbegins with
  | other hdot hopen rest => exact readSegment_eq_error hdot hopen rest
  | @nameless rest hname =>
      have hdot : rest.head? ≠ some '.' := fun hhead => absurd (hname '.' hhead) (by decide)
      have hnone : splitName rest = none :=
        splitName_eq_none_iff.mpr fun c hc => (hname c hc).imp_right .inl
      rw [readSegment_dot hdot, hnone]
  | @unclosed rest hclose =>
      have hquoted : splitQuotedName rest = none := by
        cases hname : splitQuotedName rest with
        | none => rfl
        | some found =>
            exact absurd ((splitQuotedName_suffix hname).subset List.mem_cons_self) hclose
      rw [readSegment_open, hquoted, Text.splitAt?_eq_none hclose]

theorem isDigit_or_of_mem_isLoneSlice (hlone : IsLoneSlice content) {c : Char} (hc : c ∈ content) :
    Text.isDigit c = true ∨ c = '-' ∨ c = ':' := by
  obtain ⟨start, stop, rfl, hstart, hstop, -⟩ := hlone
  rw [List.mem_append, List.mem_cons] at hc
  rcases hc with hc | rfl | hc
  · exact (isDigit_or_of_mem_isBound hstart hc).imp_right .inl
  · exact .inr (.inr rfl)
  · exact (isDigit_or_of_mem_isBound hstop hc).imp_right .inl

/-- Such a slice is not taken for a quoted name: no quote is in it. -/
theorem splitQuotedName_of_isLoneSlice (hlone : IsLoneSlice (Text.trim content)) (more : Text) :
    splitQuotedName (content ++ more) = none := by
  cases hname : splitQuotedName (content ++ more) with
  | none => rfl
  | some found =>
      obtain ⟨quote, after, hquote, hopen, -⟩ := exists_of_splitQuotedName hname
      have htrim : Text.trim content ≠ [] := by
        obtain ⟨start, stop, heq, -⟩ := hlone
        simp [heq]
      have hstart : Text.trimStart content ≠ [] := fun hnil => htrim (congrArg Text.trimEnd hnil)
      rw [Text.trimStart_append hstart] at hopen
      -- the text without blanks in front begins with the quote, trimmed at its end as well
      have hhead : (Text.trim content).head? = some quote := by
        obtain ⟨behind, hbehind⟩ : Text.trim content <+: Text.trimStart content :=
          Text.trimEnd_isPrefix (Text.trimStart content)
        rw [← hbehind, List.append_assoc] at hopen
        have hfirst := congrArg List.head? hopen
        rwa [List.head?_append_of_ne_nil _ htrim] at hfirst
      have hmem := isDigit_or_of_mem_isLoneSlice hlone (List.mem_of_head? hhead)
      rcases hquote with rfl | rfl <;> exact absurd hmem (by decide)

theorem readSegment_of_beginsLoneSlice (hbegins : BeginsLoneSlice text) :
    readSegment text = .error .loneSign := by
  obtain ⟨content, more, rfl, hclose, hlone⟩ := hbegins
  rw [readSegment_open, splitQuotedName_of_isLoneSlice hlone, Text.splitAt?_append hclose]
  dsimp only
  rw [bracketSegment_eq_error_iff.mpr ⟨rfl, hlone⟩]
  rfl

/-- What a text begins with.  A segment takes a character at least. -/
theorem readSegment_cases (c : Char) (text : Text) :
    BeginsNoSegment (c :: text) ∨ BeginsLoneSlice (c :: text) ∨
      ∃ segments rest, rest <:+ text ∧ readSegment (c :: text) = .ok (segments, rest) := by
  by_cases hdot : c = '.'
  · subst hdot
    by_cases hnext : text.head? = some '.'
    · -- two dots are a segment, whether or not a name follows
      obtain ⟨text, rfl⟩ := List.head?_eq_some_iff.mp hnext
      refine .inr (.inr ?_)
      rw [readSegment]
      cases hname : splitName text with
      | none => exact ⟨_, text, List.suffix_cons _ _, rfl⟩
      | some found => exact ⟨_, _, (splitName_suffix hname).trans (List.suffix_cons _ _), rfl⟩
    · cases hname : splitName text with
      | none =>
          refine .inl (.nameless fun c hc => ?_)
          rcases splitName_eq_none_iff.mp hname c hc with hopen | hclose | rfl
          · exact .inl hopen
          · exact .inr hclose
          · exact absurd hc hnext
      | some found =>
          obtain ⟨name, rest⟩ := found
          refine .inr (.inr ⟨[nameSegment name], rest, splitName_suffix hname, ?_⟩)
          rw [readSegment_dot hnext, hname]
  by_cases hopen : c = '['
  · subst hopen
    rw [readSegment_open]
    cases hname : splitQuotedName text with
    | some found =>
        have hsuffix := (List.suffix_cons _ _).trans (splitQuotedName_suffix hname)
        exact .inr (.inr ⟨_, _, hsuffix, rfl⟩)
    | none =>
        cases hsplit : Text.splitAt? ']' text with
        | none => exact .inl (.unclosed (Text.splitAt?_eq_none_iff.mp hsplit))
        | some found =>
            obtain ⟨content, rest⟩ := found
            obtain ⟨hclose, rfl⟩ := Text.splitAt?_eq_some_iff.mp hsplit
            cases hsegment : bracketSegment (Text.trim content) with
            | error fault =>
                have hlone := (bracketSegment_eq_error_iff.mp hsegment).2
                exact .inr (.inl ⟨content, rest, rfl, hclose, hlone⟩)
            | ok segment =>
                have hsuffix : rest <:+ content ++ ']' :: rest :=
                  (List.suffix_cons _ _).trans (List.suffix_append _ _)
                refine .inr (.inr ⟨[segment], rest, hsuffix, ?_⟩)
                dsimp only
                rw [hsegment]
                rfl
  · exact .inl (.other hdot hopen text)

theorem readSegment_eq_malformed_iff :
    readSegment text = .error .malformed ↔ text = [] ∨ BeginsNoSegment text := by
  constructor
  · intro hread
    cases text with
    | nil => exact .inl rfl
    | cons c text =>
        rcases readSegment_cases c text with hbegins | hbegins | ⟨segments, rest, -, hok⟩
        · exact .inr hbegins
        · cases hread.symm.trans (readSegment_of_beginsLoneSlice hbegins)
        · cases hread.symm.trans hok
  · rintro (rfl | hbegins)
    · rfl
    · exact readSegment_of_beginsNoSegment hbegins

theorem readSegment_eq_loneSign_iff :
    readSegment text = .error .loneSign ↔ BeginsLoneSlice text := by
  refine ⟨fun hread => ?_, readSegment_of_beginsLoneSlice⟩
  cases text with
  | nil => cases hread
  | cons c text =>
      rcases readSegment_cases c text with hbegins | hbegins | ⟨segments, rest, -, hok⟩
      · cases hread.symm.trans (readSegment_of_beginsNoSegment hbegins)
      · exact hbegins
      · cases hread.symm.trans hok

/-! ## Segments one after the other -/

theorem length_lt_of_readSegment {segments : List Segment}
    (hread : readSegment text = .ok (segments, rest)) : rest.length < text.length := by
  cases text with
  | nil => cases hread
  | cons c text =>
      rcases readSegment_cases c text with hbegins | hbegins | ⟨found, left, hsuffix, hok⟩
      · cases hread.symm.trans (readSegment_of_beginsNoSegment hbegins)
      · cases hread.symm.trans (readSegment_of_beginsLoneSlice hbegins)
      · obtain ⟨-, rfl⟩ := Prod.mk.inj (Except.ok.inj (hread.symm.trans hok))
        exact Nat.lt_succ_of_le hsuffix.length_le

/-- What is read of a text does not depend on the fuel. -/
theorem Reads.readSegments_eq {segments : List Segment} (hreads : Reads text segments rest)
    {fuel : Nat} (hfuel : text.length ≤ fuel) :
    ∃ left, rest.length ≤ left ∧
      readSegments fuel text = (readSegments left rest).map (segments ++ ·) := by
  induction hreads generalizing fuel with
  | nil text =>
      refine ⟨fuel, hfuel, ?_⟩
      cases readSegments fuel text <;> rfl
  | @cons text middle rest segments more hsegment _ ih =>
      -- a segment costs one unit of fuel and one character or more
      have hlength := length_lt_of_readSegment hsegment
      obtain ⟨fuel, rfl⟩ := Nat.exists_eq_add_one_of_ne_zero (Nat.ne_of_gt (by omega : 0 < fuel))
      have hmiddle : middle.length ≤ fuel := by omega
      obtain ⟨left, hleft, hmore⟩ := ih hmiddle
      have hnil : text ≠ [] := fun heq => by rw [heq] at hlength; exact absurd hlength (by simp)
      refine ⟨left, hleft, ?_⟩
      rw [readSegments_succ hnil, hsegment]
      change (do return segments ++ (← readSegments fuel middle)) = _
      rw [hmore]
      cases readSegments left rest with
      | error fault => rfl
      | ok others => exact congrArg Except.ok (List.append_assoc segments more others).symm

/-- A text is read to its end, or up to a place at which no segment can be read. -/
theorem reads_or_stops (text : Text) :
    (∃ segments, Reads text segments []) ∨
      ∃ segments rest fault, Reads text segments rest ∧ rest ≠ [] ∧
        readSegment rest = .error fault := by
  induction hlength : text.length using Nat.strongRecOn generalizing text with
  | ind n ih =>
      by_cases hnil : text = []
      · exact .inl ⟨[], hnil ▸ .nil []⟩
      cases hread : readSegment text with
      | error fault => exact .inr ⟨[], text, fault, .nil text, hnil, hread⟩
      | ok found =>
          obtain ⟨segments, middle⟩ := found
          have hshorter : middle.length < n := hlength ▸ length_lt_of_readSegment hread
          rcases ih _ hshorter middle rfl with ⟨more, hmore⟩ | ⟨more, rest, fault, hmore, hrest⟩
          · exact .inl ⟨segments ++ more, .cons hread hmore⟩
          · exact .inr ⟨segments ++ more, rest, fault, .cons hread hmore, hrest⟩

theorem read_of_reads {segments : List Segment} (hreads : Reads (segmentText text) segments []) :
    read text = .ok segments := by
  obtain ⟨left, -, hread⟩ := hreads.readSegments_eq le_rfl
  rw [read, hread, readSegments]
  exact congrArg Except.ok (List.append_nil segments)

theorem read_of_readSegment_eq_error {segments : List Segment}
    (hreads : Reads (segmentText text) segments rest) (hrest : rest ≠ [])
    (hfault : readSegment rest = .error fault) : read text = .error fault := by
  obtain ⟨left, hleft, hread⟩ := hreads.readSegments_eq le_rfl
  have hlength := List.length_pos_iff.mpr hrest
  obtain ⟨left, rfl⟩ := Nat.exists_eq_add_one_of_ne_zero (Nat.ne_of_gt (by omega : 0 < left))
  rw [read, hread, readSegments_succ hrest, hfault]
  rfl

theorem read_eq_error_iff :
    read text = .error fault ↔
      ∃ segments rest, Reads (segmentText text) segments rest ∧ rest ≠ [] ∧
        readSegment rest = .error fault := by
  constructor
  · intro hread
    rcases reads_or_stops (segmentText text) with
      ⟨segments, hreads⟩ | ⟨segments, rest, found, hreads, hrest, hfound⟩
    · cases hread.symm.trans (read_of_reads hreads)
    · cases hread.symm.trans (read_of_readSegment_eq_error hreads hrest hfound)
      exact ⟨segments, rest, hreads, hrest, hfound⟩
  · rintro ⟨segments, rest, hreads, hrest, hfault⟩
    exact read_of_readSegment_eq_error hreads hrest hfault

theorem read_eq_ok_iff {segments : List Segment} :
    read text = .ok segments ↔ Reads (segmentText text) segments [] := by
  refine ⟨fun hread => ?_, read_of_reads⟩
  rcases reads_or_stops (segmentText text) with
    ⟨found, hreads⟩ | ⟨found, rest, fault, hreads, hrest, hfault⟩
  · cases hread.symm.trans (read_of_reads hreads)
    exact hreads
  · cases hread.symm.trans (read_of_readSegment_eq_error hreads hrest hfault)

end Query

/-- A text is a query if it can be read to its end.  It is no query in two cases: something that is
read of it is followed by what begins no segment, or by a slice of which a bound is a minus sign
alone.  In the first case the text is reported.  So a text is read as segments or reported just if
no such slice is come upon. -/
theorem read_fault_iff (text : Text) :
    let stops (begins : Text → Prop) : Prop := ∃ segments rest,
      Query.Reads (Query.segmentText text) segments rest ∧ begins rest
    (∀ segments, Query.read text = .ok segments ↔
      Query.Reads (Query.segmentText text) segments []) ∧
    (Query.read text = .error .malformed ↔ stops Query.BeginsNoSegment) ∧
    (Query.read text = .error .loneSign ↔ stops Query.BeginsLoneSlice) ∧
    (((∃ segments, Query.read text = .ok segments) ∨
        ∃ fault, Query.read text = .error fault ∧
          Fault.ofQuery text fault = .problem (.badQuery text)) ↔
      ¬ stops Query.BeginsLoneSlice) := by
  intro stops
  have hmalformed : Query.read text = .error .malformed ↔ stops Query.BeginsNoSegment := by
    rw [Query.read_eq_error_iff]
    refine exists_congr fun segments => exists_congr fun rest => and_congr_right fun _ => ?_
    rw [Query.readSegment_eq_malformed_iff]
    constructor
    · rintro ⟨hrest, hbegins⟩
      exact hbegins.resolve_left hrest
    · intro hbegins
      refine ⟨?_, .inr hbegins⟩
      rintro rfl
      cases hbegins
  have hlone : Query.read text = .error .loneSign ↔ stops Query.BeginsLoneSlice := by
    rw [Query.read_eq_error_iff]
    refine exists_congr fun segments => exists_congr fun rest => and_congr_right fun _ => ?_
    rw [Query.readSegment_eq_loneSign_iff]
    refine and_iff_right_of_imp ?_
    rintro ⟨content, more, rfl, -⟩
    exact List.cons_ne_nil _ _
  refine ⟨fun _ => Query.read_eq_ok_iff, hmalformed, hlone, ?_⟩
  rw [← hlone]
  cases Query.read text with
  | ok segments => exact iff_of_true (.inl ⟨segments, rfl⟩) (by simp)
  | error fault =>
      cases fault with
      | malformed => exact iff_of_true (.inr ⟨_, rfl, rfl⟩) (by simp)
      | loneSign =>
          refine iff_of_false ?_ fun hnot => hnot rfl
          rintro (⟨segments, hread⟩ | ⟨fault, hread, hfault⟩)
          · cases hread
          · cases hread
            cases hfault

/-- A slice from a minus sign on is neither read nor reported as no query. -/
theorem read_loneSign :
    let text : Text := "[-:]"
    Query.read text = .error .loneSign ∧
      Fault.ofQuery text .loneSign = .breakdown .loneSign ∧
      ¬ ((∃ segments, Query.read text = .ok segments) ∨
        ∃ fault, Query.read text = .error fault ∧
          Fault.ofQuery text fault = .problem (.badQuery text)) := by
  intro text
  have hread : Query.read text = .error .loneSign := rfl
  refine ⟨hread, rfl, ?_⟩
  rw [hread]
  rintro (⟨segments, hok⟩ | ⟨fault, herror, hfault⟩)
  · cases hok
  · cases herror
    cases hfault

end HttpScript
