import HttpScript.Proofs.Query.Matching
import HttpScript.Proofs.Text.Digits
import HttpScript.Proofs.Text.Trim
import HttpScript.Query.Reader

/-!
# Written queries

Every segment can be written in brackets, but for `..`, which has no other form.  A key stands there
between quotes of one kind or the other, and it may hold any character but that quote.  No such form
runs into the next one: a bracket ends where it is closed, and `..` takes a name only from a
character that begins no segment.  So a query that is written from its segments is read as these
segments (`read_isWritten`), and the location of a value, written as a query, selects that value
alone.
-/

namespace HttpScript

namespace Query

/-! ## Written forms -/

/-- A bound of a slice; an absent one is left empty. -/
def writeBound (bound : Option Int) : Text :=
  (bound.map Text.ofInt).getD []

/-- The forms in which a segment can be written: `['key']` or `["key"]`, `[1]`, `[*]`, `[1:2]` with
either bound left out, and `..`. -/
inductive SegmentIsWritten : Segment → Text → Prop
  | key {name : Text} {quote : Char} (hquote : quote = '\'' ∨ quote = '"') (hname : quote ∉ name) :
      SegmentIsWritten (.key name) ('[' :: quote :: (name ++ [quote, ']']))
  | index (position : Int) :
      SegmentIsWritten (.index position) ('[' :: (Text.ofInt position ++ [']']))
  | all : SegmentIsWritten .all ['[', '*', ']']
  | slice (start stop : Option Int) :
      SegmentIsWritten (.slice start stop)
        ('[' :: (writeBound start ++ ':' :: writeBound stop ++ [']']))
  | descend : SegmentIsWritten .descend ['.', '.']

/-- The forms of the segments of a list one after the other. -/
inductive IsWritten : List Segment → Text → Prop
  | nil : IsWritten [] []
  | cons {segment : Segment} {rest : List Segment} {text more : Text}
      (hsegment : SegmentIsWritten segment text) (hrest : IsWritten rest more) :
      IsWritten (segment :: rest) (text ++ more)

/-- A key that does not hold quotes of both kinds. -/
def IsQuotable (name : Text) : Prop :=
  '\'' ∉ name ∨ '"' ∉ name

theorem exists_segmentIsWritten {segment : Segment}
    (hquotable : ∀ name, segment = .key name → IsQuotable name) :
    ∃ text, SegmentIsWritten segment text := by
  cases segment with
  | key name =>
      rcases hquotable name rfl with hsingle | hdouble
      · exact ⟨_, .key (.inl rfl) hsingle⟩
      · exact ⟨_, .key (.inr rfl) hdouble⟩
  | index position => exact ⟨_, .index position⟩
  | all => exact ⟨_, .all⟩
  | slice start stop => exact ⟨_, .slice start stop⟩
  | descend => exact ⟨_, .descend⟩

theorem exists_isWritten {segments : List Segment}
    (hquotable : ∀ name, .key name ∈ segments → IsQuotable name) :
    ∃ text, IsWritten segments text := by
  induction segments with
  | nil => exact ⟨[], .nil⟩
  | cons segment rest ih =>
      obtain ⟨text, hsegment⟩ := exists_segmentIsWritten fun name heq =>
        hquotable name (heq ▸ List.mem_cons_self)
      obtain ⟨more, hrest⟩ := ih fun name hmem => hquotable name (List.mem_cons_of_mem segment hmem)
      exact ⟨text ++ more, .cons hsegment hrest⟩

/-! ## Brackets -/

theorem readSegment_quoted {name : Text} {quote : Char} (hquote : quote = '\'' ∨ quote = '"')
    (hname : quote ∉ name) (rest : Text) :
    readSegment ('[' :: quote :: (name ++ [quote, ']']) ++ rest) = .ok ([.key name], rest) := by
  have hsplit : splitQuoted quote (name ++ quote :: ']' :: rest) = some (name, rest) := by
    rw [splitQuoted, Text.splitAt?_append hname]
    rfl
  have hopen : Text.trimStart (quote :: (name ++ quote :: ']' :: rest)) =
      quote :: (name ++ quote :: ']' :: rest) := by
    refine Text.trimStart_eq_self fun c hc => ?_
    rw [← Option.some.inj hc]
    rcases hquote with rfl | rfl <;> decide
  have hquoted : splitQuotedName (quote :: (name ++ quote :: ']' :: rest)) = some (name, rest) := by
    rw [splitQuotedName, hopen]
    rcases hquote with rfl | rfl <;> exact hsplit
  have htext : '[' :: quote :: (name ++ [quote, ']']) ++ rest =
      '[' :: quote :: (name ++ quote :: ']' :: rest) := by simp
  rw [htext, readSegment, hquoted]

/-- A character of a number, of a slice or of a star. -/
def IsBare (c : Char) : Prop :=
  c.isDigit = true ∨ c = '-' ∨ c = ':' ∨ c = '*'

theorem IsBare.isBlank_eq_false {c : Char} (hbare : IsBare c) : Text.isBlank c = false := by
  rcases hbare with hdigit | rfl | rfl | rfl
  · exact Text.isBlank_eq_false_of Char.isDigit (by decide +kernel) hdigit
  · decide
  · decide
  · decide

theorem not_isBare {c : Char} (hdigit : c.isDigit = false)
    (hother : c ≠ '-' ∧ c ≠ ':' ∧ c ≠ '*') : ¬ IsBare c := by
  rintro (hbare | hbare | hbare | hbare)
  · exact nomatch hdigit.symm.trans hbare
  · exact hother.1 hbare
  · exact hother.2.1 hbare
  · exact hother.2.2 hbare

theorem splitQuotedName_eq_none {c : Char} (hblank : Text.isBlank c = false) (hsingle : c ≠ '\'')
    (hdouble : c ≠ '"') (rest : Text) : splitQuotedName (c :: rest) = none := by
  have hstart : Text.trimStart (c :: rest) = c :: rest :=
    Text.trimStart_eq_self fun d hd => Option.some.inj hd ▸ hblank
  rw [splitQuotedName, hstart]
  split
  · next heq => exact absurd (List.cons.inj heq).1 hsingle
  · next heq => exact absurd (List.cons.inj heq).1 hdouble
  · rfl

theorem readSegment_open (rest : Text) :
    readSegment ('[' :: rest) =
      match splitQuotedName rest with
      | some (name, rest) => .ok ([.key name], rest)
      | none =>
          match Text.splitAt? ']' rest with
          | some (content, rest) =>
              (bracketSegment (Text.trim content)).map fun segment => ([segment], rest)
          | none => .error .malformed := by
  rw [readSegment]
  cases splitQuotedName rest with
  | some found => rfl
  | none =>
      cases Text.splitAt? ']' rest with
      | none => rfl
      | some found =>
          dsimp only
          cases bracketSegment (Text.trim found.1) <;> rfl

/-- A bracket without quotes ends where it is closed. -/
theorem readSegment_bare {content : Text} (hbare : ∀ c ∈ content, IsBare c) (rest : Text) :
    readSegment ('[' :: (content ++ [']']) ++ rest) =
      (bracketSegment content).map fun segment => ([segment], rest) := by
  have hclose : ']' ∉ content := fun hmem => not_isBare rfl (by decide) (hbare _ hmem)
  have htrim : Text.trim content = content :=
    (Text.isTrimmed_of_forall fun c hc => (hbare c hc).isBlank_eq_false).trim_eq
  have hquoted : splitQuotedName (content ++ ']' :: rest) = none := by
    cases content with
    | nil => exact splitQuotedName_eq_none (by decide) (by decide) (by decide) rest
    | cons c content =>
        have hc : IsBare c := hbare c List.mem_cons_self
        refine splitQuotedName_eq_none hc.isBlank_eq_false ?_ ?_ (content ++ ']' :: rest)
        · rintro rfl
          exact not_isBare rfl (by decide) hc
        · rintro rfl
          exact not_isBare rfl (by decide) hc
  have htext : '[' :: (content ++ [']']) ++ rest = '[' :: (content ++ ']' :: rest) := by simp
  rw [htext, readSegment_open, hquoted, Text.splitAt?_append hclose]
  dsimp only
  rw [htrim]

/-! ## What stands in a bracket -/

theorem isBare_of_mem_ofInt {c : Char} {n : Int} (hc : c ∈ Text.ofInt n) : IsBare c :=
  (Text.isDigit_or_of_mem_ofInt hc).imp_right .inl

theorem notMem_ofInt {c : Char} (hdigit : c.isDigit = false) (hminus : c ≠ '-') (n : Int) :
    c ∉ Text.ofInt n := by
  intro hc
  rcases Text.isDigit_or_of_mem_ofInt hc with hc | hc
  · exact nomatch hdigit.symm.trans hc
  · exact hminus hc

theorem bracketSegment_ofInt (position : Int) :
    bracketSegment (Text.ofInt position) = .ok (.index position) := by
  have hcolon : ':' ∉ Text.ofInt position := notMem_ofInt rfl (by decide) position
  have hstar : Text.ofInt position ≠ ['*'] := fun heq =>
    notMem_ofInt rfl (by decide) position (heq ▸ List.mem_singleton_self '*')
  rw [bracketSegment, if_neg (by simp [hstar, Text.ofInt_ne_nil]), Text.splitAt?_eq_none hcolon]
  dsimp only
  rw [Text.toInt?_ofInt]

theorem isBare_of_mem_writeBound {c : Char} {bound : Option Int} (hc : c ∈ writeBound bound) :
    IsBare c := by
  cases bound with
  | none => exact nomatch hc
  | some n => exact isBare_of_mem_ofInt hc

theorem isBound_writeBound (bound : Option Int) : isBound (writeBound bound) = true := by
  have hdigits (n : Nat) : (Text.ofNat n).all Text.isDigit = true :=
    List.all_eq_true.mpr fun c hc => Text.isDigit_of_isDigit (Text.isDigit_of_mem_ofNat hc)
  match bound with
  | none => rfl
  | some (.ofNat n) =>
      change isBound (Text.ofNat n) = true
      unfold isBound
      split
      · next heq =>
          have hminus : '-' ∈ Text.ofNat n := heq ▸ List.mem_cons_self
          exact absurd (Text.isDigit_of_mem_ofNat hminus) (by decide)
      · exact hdigits n
  | some (.negSucc n) => exact hdigits (n + 1)

theorem isDigit_or_of_mem_isBound {bound : Text} (hbound : isBound bound = true) {c : Char}
    (hc : c ∈ bound) : Text.isDigit c = true ∨ c = '-' := by
  unfold isBound at hbound
  split at hbound
  · rcases List.mem_cons.mp hc with rfl | hc
    · exact .inr rfl
    · exact .inl (List.all_eq_true.mp hbound c hc)
  · exact .inl (List.all_eq_true.mp hbound c hc)

theorem notMem_of_isBound {bound : Text} (hbound : isBound bound = true) {c : Char}
    (hdigit : Text.isDigit c = false) (hminus : c ≠ '-') : c ∉ bound := by
  intro hc
  rcases isDigit_or_of_mem_isBound hbound hc with hc | hc
  · exact Bool.false_ne_true (hdigit.symm.trans hc)
  · exact hminus hc

theorem readBound_writeBound (bound : Option Int) : readBound (writeBound bound) = .ok bound := by
  cases bound with
  | none => rfl
  | some n =>
      change readBound (Text.ofInt n) = _
      rw [readBound, if_neg (by simp [Text.ofInt_ne_nil]), Text.toInt?_ofInt]

theorem bracketSegment_of_colon {start stop : Text} (hcolon : ':' ∉ start) :
    bracketSegment (start ++ ':' :: stop) =
      if isBound start && isBound stop then do
        return .slice (← readBound start) (← readBound stop)
      else match Text.toInt? (start ++ ':' :: stop) with
        | some position => .ok (.index position)
        | none => .ok (.key (start ++ ':' :: stop)) := by
  have hstar : start ++ ':' :: stop ≠ ['*'] := by
    intro heq
    have hmem : ':' ∈ ['*'] := heq ▸ List.mem_append_right _ List.mem_cons_self
    exact absurd hmem (by decide)
  rw [bracketSegment, if_neg (by simp [hstar]), Text.splitAt?_append hcolon]
  dsimp only
  cases isBound start && isBound stop <;> rfl

theorem bracketSegment_slice (start stop : Option Int) :
    bracketSegment (writeBound start ++ ':' :: writeBound stop) = .ok (.slice start stop) := by
  have hcolon : ':' ∉ writeBound start :=
    notMem_of_isBound (isBound_writeBound start) (by decide) (by decide)
  rw [bracketSegment_of_colon hcolon, isBound_writeBound, isBound_writeBound, Bool.and_self,
    if_pos rfl, readBound_writeBound, readBound_writeBound]
  rfl

/-! ## Segments one after the other -/

/-- Behind two dots a name is read, if there is one. -/
theorem IsWritten.splitName_eq_none {segments : List Segment} {text : Text}
    (hwritten : IsWritten segments text) : splitName text = none := by
  cases hwritten with
  | nil => rfl
  | cons hsegment hrest => cases hsegment <;> rfl

theorem readSegment_descend {rest : Text} (hname : splitName rest = none) :
    readSegment ('.' :: '.' :: rest) = .ok ([.descend], rest) := by
  rw [readSegment, hname]

/-- A written segment is read as what it is, whatever is written behind it. -/
theorem SegmentIsWritten.readSegment_eq {segment : Segment} {segments : List Segment}
    {text more : Text} (hsegment : SegmentIsWritten segment text)
    (hrest : IsWritten segments more) : readSegment (text ++ more) = .ok ([segment], more) := by
  cases hsegment with
  | key hquote hname => exact readSegment_quoted hquote hname more
  | index position =>
      rw [readSegment_bare fun c hc => isBare_of_mem_ofInt hc, bracketSegment_ofInt]
      rfl
  | all =>
      have hbare : ∀ c ∈ ['*'], IsBare c := fun c hc =>
        .inr (.inr (.inr (List.mem_singleton.mp hc)))
      exact readSegment_bare hbare more
  | slice start stop =>
      have htext : '[' :: (writeBound start ++ ':' :: writeBound stop ++ [']']) ++ more =
          '[' :: ((writeBound start ++ ':' :: writeBound stop) ++ [']']) ++ more := by simp
      rw [htext, readSegment_bare, bracketSegment_slice]
      · rfl
      · intro c hc
        rw [List.mem_append, List.mem_cons] at hc
        rcases hc with hc | rfl | hc
        · exact isBare_of_mem_writeBound hc
        · exact .inr (.inr (.inl rfl))
        · exact isBare_of_mem_writeBound hc
  | descend => exact readSegment_descend hrest.splitName_eq_none

theorem SegmentIsWritten.ne_nil {segment : Segment} {text : Text}
    (hsegment : SegmentIsWritten segment text) : text ≠ [] := by
  cases hsegment <;> exact List.cons_ne_nil _ _

theorem readSegments_succ {text : Text} (htext : text ≠ []) (fuel : Nat) :
    readSegments (fuel + 1) text = do
      let (segments, rest) ← readSegment text
      return segments ++ (← readSegments fuel rest) := by
  cases text with
  | nil => exact absurd rfl htext
  | cons c rest => rfl

theorem readSegments_isWritten {segments : List Segment} {text : Text}
    (hwritten : IsWritten segments text) {fuel : Nat} (hfuel : text.length ≤ fuel) :
    readSegments fuel text = .ok segments := by
  induction hwritten generalizing fuel with
  | nil => rw [readSegments]
  | @cons segment rest text more hsegment hrest ih =>
      rw [List.length_append] at hfuel
      have hlength := List.length_pos_iff.mpr hsegment.ne_nil
      obtain ⟨fuel, rfl⟩ := Nat.exists_eq_add_one_of_ne_zero (Nat.ne_of_gt (by omega : 0 < fuel))
      rw [readSegments_succ (by simp [hsegment.ne_nil]), hsegment.readSegment_eq hrest]
      change (do return [segment] ++ (← readSegments fuel more)) = _
      rw [ih (by omega)]
      rfl

theorem SegmentIsWritten.exists_last {segment : Segment} {text : Text}
    (hsegment : SegmentIsWritten segment text) :
    ∃ before last, text = before ++ [last] ∧ Text.isBlank last = false := by
  cases hsegment with
  | @key name quote => exact ⟨'[' :: quote :: (name ++ [quote]), ']', by simp, by decide⟩
  | index position => exact ⟨'[' :: Text.ofInt position, ']', rfl, by decide⟩
  | all => exact ⟨['[', '*'], ']', rfl, by decide⟩
  | slice start stop =>
      exact ⟨'[' :: (writeBound start ++ ':' :: writeBound stop), ']', rfl, by decide⟩
  | descend => exact ⟨['.'], '.', rfl, by decide⟩

/-- A query ends with a bracket or a dot, or it is no more than its mark. -/
theorem isBlank_getLast?_query {segments : List Segment} {text : Text}
    (hwritten : IsWritten segments text) :
    ∀ c ∈ ('$' :: text).getLast?, Text.isBlank c = false := by
  suffices hlast : ∀ before : Text, (∀ c ∈ before.getLast?, Text.isBlank c = false) →
      ∀ c ∈ (before ++ text).getLast?, Text.isBlank c = false from
    hlast ['$'] fun c hc => Option.some.inj hc ▸ rfl
  induction hwritten with
  | nil => intro before hbefore; rwa [List.append_nil]
  | @cons segment rest text more hsegment _ ih =>
      intro before _
      rw [← List.append_assoc]
      refine ih (before ++ text) fun c hc => ?_
      obtain ⟨start, last, rfl, hlast⟩ := hsegment.exists_last
      rw [← List.append_assoc, List.getLast?_concat] at hc
      rwa [← Option.some.inj hc]

theorem segmentText_isWritten {segments : List Segment} {text : Text}
    (hwritten : IsWritten segments text) : segmentText ('$' :: text) = text := by
  have htrimmed : Text.IsTrimmed ('$' :: text) :=
    ⟨fun c hc => Option.some.inj hc ▸ rfl, isBlank_getLast?_query hwritten⟩
  rw [segmentText, htrimmed.trim_eq]
  rfl

theorem read_of_isWritten {segments : List Segment} {text : Text}
    (hwritten : IsWritten segments text) : read ('$' :: text) = .ok segments := by
  rw [read, segmentText_isWritten hwritten]
  exact readSegments_isWritten hwritten le_rfl

/-! ## Locations as queries -/

/-- The segment that leads where a step leads. -/
def stepSegment : Step → Segment
  | .key name => .key name
  | .index position => .index position

theorem step_stepSegment {value child : Json} {step : Step}
    (hchild : value.child? step = some child) :
    Query.step (stepSegment step) value = [([step], child)] := by
  have hnodes : value.childNodes step = [([step], child)] := by rw [Json.childNodes, hchild]
  cases step with
  | key name => cases value <;> exact hnodes
  | index position =>
      cases value with
      | list items =>
          rw [stepSegment, step_item, fromEnd, if_neg (by omega), if_neg (by omega),
            Int.toNat_natCast]
          exact hnodes
      | _ => exact nomatch hchild

/-- A location selects the value at it and nothing else. -/
theorem select_location {value found : Json} {way : Location}
    (hfound : value.at? way = some found) :
    select (way.map stepSegment) value = [(way, found)] := by
  induction way generalizing value with
  | nil =>
      rw [Json.at?_nil] at hfound
      rw [List.map_nil, select, Option.some.inj hfound]
  | cons step rest ih =>
      obtain ⟨child, hchild, hrest⟩ := Option.bind_eq_some_iff.mp hfound
      rw [List.map_cons, select, step_stepSegment hchild, List.flatMap_singleton]
      dsimp only
      rw [ih hrest]
      rfl

end Query

/-- A list of segments can be written if none of its keys holds quotes of both kinds, and however it
is written, it is read as these segments.  So a location that a query finds in some data, written as
a query itself, finds the value there and no other. -/
theorem read_isWritten :
    (∀ segments : List Segment, (∀ name, .key name ∈ segments → Query.IsQuotable name) →
      (∃ text, Query.IsWritten segments text) ∧
        ∀ text, Query.IsWritten segments text → Query.read ('$' :: text) = .ok segments) ∧
    ∀ (data : Json) (expression : Text) (segments : List Segment) (way : Location),
      data.KeysDistinct → Query.read expression = .ok segments →
      way ∈ Query.locations segments data → (∀ name, .key name ∈ way → Query.IsQuotable name) →
      ∃ found, data.at? way = some found ∧
        (∃ text, Query.IsWritten (way.map Query.stepSegment) text) ∧
        ∀ text, Query.IsWritten (way.map Query.stepSegment) text →
          (Query.read ('$' :: text)).map (Query.values · data) = .ok [found] := by
  refine ⟨fun segments hquotable => ?_, fun data _ segments way hkeys _ hway hquotable => ?_⟩
  · exact ⟨Query.exists_isWritten hquotable, fun _ => Query.read_of_isWritten⟩
  · have hmatches := (Query.mem_locations_iff hkeys).mp hway
    obtain ⟨found, hfound⟩ := Option.isSome_iff_exists.mp (Query.isSome_at?_of_matches hmatches)
    refine ⟨found, hfound, Query.exists_isWritten fun name hname => ?_, fun text hwritten => ?_⟩
    · obtain ⟨step, hstep, hsegment⟩ := List.mem_map.mp hname
      cases step with
      | key other => exact hquotable name (Segment.key.inj hsegment ▸ hstep)
      | index position => exact nomatch hsegment
    · rw [Query.read_of_isWritten hwritten]
      change Except.ok (Query.values (way.map Query.stepSegment) data) = _
      rw [Query.values, Query.select_location hfound]
      rfl

/-- Keys that hold a quote, a bracket or dots, and a location that is found by descending to it. -/
theorem read_isWritten_nested :
    let data : Json := .object [("it's", .list [.null, .object [("]..[", .bool true)]])]
    Query.read "$..[\"it's\"]....[:-1]['..'][-2][*]" =
        .ok [.descend, .key "it's", .descend, .descend, .slice none (some (-1)), .key "..",
          .index (-2), .all] ∧
      [.key "it's", .index 1, .key "]..["] ∈ Query.locations [.descend, .key "]..["] data ∧
      (Query.read "$[\"it's\"][1][']..[']").map (Query.values · data) = .ok [.bool true] := by
  intro data
  have hkeys : data.KeysDistinct := by
    simp [data, Json.KeysDistinct, Json.itemsKeysDistinct, Json.fieldsKeysDistinct]
  have hway : [.key "it's", .index 1, .key "]..["] ∈
      Query.locations [.descend, .key "]..["] data := by decide
  have hquotable (name : Text) (hname : name ∈ ["it's".toList, "]..[".toList, "..".toList]) :
      Query.IsQuotable name := by
    simp only [List.mem_cons, List.not_mem_nil, or_false] at hname
    rcases hname with rfl | rfl | rfl
    · exact .inr (by decide)
    · exact .inl (by decide)
    · exact .inl (by decide)
  have hits : Query.SegmentIsWritten (.key "it's") "[\"it's\"]" := .key (.inr rfl) (by decide)
  obtain ⟨hsegments, hlocations⟩ := read_isWritten
  obtain ⟨-, hread⟩ := hsegments [.descend, .key "it's", .descend, .descend,
    .slice none (some (-1)), .key "..", .index (-2), .all] fun name hname => hquotable name (by
      simp at hname ⊢
      tauto)
  obtain ⟨found, hfound, -, hvalues⟩ := hlocations data "$..[']..[']" _ _ hkeys rfl hway
    fun name hname => hquotable name (by
      simp at hname ⊢
      tauto)
  obtain rfl : Json.bool true = found := Option.some.inj hfound
  refine ⟨hread _ ?_, hway, hvalues _ ?_⟩
  · exact .cons .descend (.cons hits (.cons .descend (.cons .descend (.cons (.slice _ _)
      (.cons (.key (.inl rfl) (by decide)) (.cons (.index _) (.cons .all .nil)))))))
  · exact .cons hits (.cons (.index 1) (.cons (.key (.inl rfl) (by decide)) .nil))

end HttpScript
