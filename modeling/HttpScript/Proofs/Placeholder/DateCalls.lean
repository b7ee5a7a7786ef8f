import HttpScript.Proofs.Calendar.Offsets
import HttpScript.Proofs.Placeholder.Function
import HttpScript.Proofs.Text.Occurrences
import HttpScript.Proofs.Text.Words

/-!
# Calls that give a date

A call for a date can end with a shift: a number and the letter of a unit.  The present time is
shifted first and written then.

* A shifted timestamp is cut to whole seconds after the shift.  The cut is not always the same one,
  so two timestamps can differ by a second more or less than the shift (`evaluate_timestamp_shifted`
  says when, `evaluate_timestamp_not_shifted` where).
* For the local date it is the local clock that is shifted.  Since a shift moves all clocks alike,
  this is the date by universal time, shown by another clock (`evaluate_localDatetime_shifted`).
-/

namespace HttpScript.Function

open DateTime

/-- The words of a shift by units of a fixed length: the number in any of the forms that are read as
it, and the letter of the unit. -/
structure IsShift (count letter : Text) (number : Int) (unit : ShiftUnit) (seconds : Int) :
    Prop where
  count_eq : Text.toInt? count = some number
  letter_mem : (letter, unit) ∈ ShiftUnit.letters
  seconds_eq : unit.seconds? = some seconds

/-- A call with a shift behind its other words. -/
def shiftCall (start count letter : Text) : Text :=
  start ++ ' ' :: (count ++ ' ' :: letter)

/-- A word that asks for a style, whatever comes behind it. -/
structure IsStyle (name : Text) (style : Style) : Prop where
  isTrimmed : Text.IsTrimmed name
  ne_nil : name ≠ []
  splitStyle_append : ∀ rest, splitStyle (name ++ rest) = some (style, rest)

theorem IsStyle.append_ne_nil {name : Text} {style : Style} (hstyle : IsStyle name style)
    (rest : Text) : name ++ rest ≠ [] :=
  List.append_ne_nil_of_left_ne_nil hstyle.ne_nil rest

theorem isStyle_iso8601 : IsStyle "iso8601" .iso8601 where
  isTrimmed := Text.isTrimmed_of_forall (Text.isBlank_eq_false_of_all_isWord (by decide))
  ne_nil := by decide
  splitStyle_append rest := by
    unfold splitStyle
    rw [Text.after?_append]
    rfl

theorem isStyle_rfc1123 : IsStyle "rfc1123" .rfc1123 where
  isTrimmed := Text.isTrimmed_of_forall (Text.isBlank_eq_false_of_all_isWord (by decide))
  ne_nil := by decide
  splitStyle_append rest := by
    have hother : Text.after? "iso8601".toList ("rfc1123" ++ rest) = none := rfl
    unfold splitStyle
    rw [hother, Text.after?_append]
    rfl

/-! ## The words of a shift -/

theorem letters_words : ∀ entry ∈ ShiftUnit.letters, entry.1 ≠ [] ∧ entry.1.all Text.isWord = true ∧
    ShiftUnit.letters.lookup entry.1 = some entry.2 := by decide

namespace IsShift

variable {count letter : Text} {number seconds : Int} {unit : ShiftUnit}
  (hshift : IsShift count letter number unit seconds)

include hshift

theorem letter_ne_nil : letter ≠ [] :=
  (letters_words _ hshift.letter_mem).1

theorem isBlank_letter : ∀ c ∈ letter, Text.isBlank c = false :=
  Text.isBlank_eq_false_of_all_isWord (letters_words _ hshift.letter_mem).2.1

theorem count_ne_nil : count ≠ [] :=
  (Text.isDigit_or_of_toInt?_eq_some hshift.count_eq).1

theorem isBlank_count : ∀ c ∈ count, Text.isBlank c = false := by
  intro c hc
  rcases (Text.isDigit_or_of_toInt?_eq_some hshift.count_eq).2 c hc with hdigit | rfl
  · exact Text.isBlank_eq_false_of Text.isDigit (by decide +kernel) hdigit
  · decide

theorem isTrimmed_words : Text.IsTrimmed (count ++ ' ' :: letter) :=
  Text.isTrimmed_append_cons (Text.isTrimmed_of_forall hshift.isBlank_count)
    (Text.isTrimmed_of_forall hshift.isBlank_letter) hshift.count_ne_nil hshift.letter_ne_nil ' '

theorem words_ne_nil : count ++ ' ' :: letter ≠ [] :=
  List.append_ne_nil_of_left_ne_nil hshift.count_ne_nil _

theorem isTrimmed_styled {name : Text} {style : Style} (hstyle : IsStyle name style) :
    Text.IsTrimmed (name ++ ' ' :: (count ++ ' ' :: letter)) :=
  Text.isTrimmed_append_cons hstyle.isTrimmed hshift.isTrimmed_words hstyle.ne_nil
    hshift.words_ne_nil ' '

theorem shiftWords?_words :
    shiftWords? (Text.words (count ++ ' ' :: letter)) = some (some (number, letter)) := by
  rw [Text.words_append_cons hshift.isBlank_count hshift.count_ne_nil (by decide),
    Text.words_eq_singleton hshift.isBlank_letter hshift.letter_ne_nil, shiftWords?,
    hshift.count_eq]
  change (if letter.all Text.isWord then some (some (number, letter)) else none) = _
  rw [(letters_words _ hshift.letter_mem).2.1, if_pos rfl]

theorem shifted_eq {moment moved : DateTime} (hmoved : moment.shift number unit = .ok moved) :
    shifted moment (some (number, letter)) = .ok moved := by
  have hlookup : ShiftUnit.letters.lookup letter = some unit :=
    (letters_words _ hshift.letter_mem).2.2
  unfold shifted
  dsimp only
  rw [hlookup]
  dsimp only
  rw [hmoved]
  rfl

end IsShift

/-! ## Calls -/

theorem outcome_evaluate_append {name arguments : Text}
    {function : Sources → Text → Except Fault Text} (hname : name.all Text.isWord = true)
    (hidentifier : identifierNames.contains name = false)
    (hfunction : steady.lookup name = some function) (htrimmed : Text.IsTrimmed arguments)
    (hnil : arguments ≠ []) (sources : Sources) :
    (evaluate ('$' :: (name ++ ' ' :: arguments))).outcome sources =
      (function sources arguments, sources) := by
  have hblank := Text.isBlank_eq_false_of_all_isWord hname
  -- neither the call nor its arguments have blanks to trim
  have hstart : Text.IsTrimmed ('$' :: name) :=
    Text.isTrimmed_of_forall (List.forall_mem_cons.mpr ⟨by decide, hblank⟩)
  have hcall : Text.IsTrimmed ('$' :: name ++ ' ' :: arguments) :=
    Text.isTrimmed_append_cons hstart htrimmed (List.cons_ne_nil _ _) hnil ' '
  have hbefore : ' ' ∉ name := fun hmem => nomatch hblank ' ' hmem
  have hsplit : splitCall ('$' :: (name ++ ' ' :: arguments)) = (name, arguments) := by
    unfold splitCall
    rw [← List.cons_append, hcall.trim_eq, List.cons_append, List.drop_one, List.tail_cons]
    dsimp only
    rw [Text.splitAt?_append hbefore]
    exact congrArg (Prod.mk name) htrimmed.trim_eq
  rw [outcome_evaluate, hsplit]
  dsimp only
  rw [hidentifier, hfunction]
  rfl

theorem outcome_evaluate_timestamp (sources : Sources) :
    (evaluate "$timestamp").outcome sources =
      (.ok (Text.ofInt sources.clock.timestamp), sources) := by
  have hsplit : splitCall "$timestamp" = ("timestamp".toList, []) := by decide
  rw [outcome_evaluate, hsplit]
  rfl

section Shifts

variable {count letter : Text} {number seconds : Int} {unit : ShiftUnit} {moment moved : DateTime}
  (hshift : IsShift count letter number unit seconds)

include hshift

theorem timestamp_shifted {sources : Sources}
    (hmoved : sources.clock.shift number unit = .ok moved) :
    timestamp sources (count ++ ' ' :: letter) = .ok (Text.ofInt moved.timestamp) := by
  unfold timestamp
  rw [hshift.shiftWords?_words]
  dsimp only
  rw [hshift.shifted_eq hmoved]
  rfl

theorem outcome_evaluate_timestamp_shifted {sources : Sources}
    (hmoved : sources.clock.shift number unit = .ok moved) :
    (evaluate (shiftCall "$timestamp" count letter)).outcome sources =
      (.ok (Text.ofInt moved.timestamp), sources) := by
  have hcall := outcome_evaluate_append (by decide : "timestamp".toList.all _ = true) (by decide)
    rfl hshift.isTrimmed_words hshift.words_ne_nil sources
  exact hcall.trans (congrArg (·, sources) (timestamp_shifted hshift hmoved))

theorem datetime_shifted {name : Text} {style : Style} (hstyle : IsStyle name style)
    (hmoved : moment.shift number unit = .ok moved) :
    datetime moment (name ++ ' ' :: (count ++ ' ' :: letter)) = write moved style := by
  have harguments : datetimeArguments? (name ++ ' ' :: (count ++ ' ' :: letter)) =
      some (style, some (number, letter)) := by
    unfold datetimeArguments?
    rw [hstyle.splitStyle_append]
    change (if Text.isBlank ' ' = true then
      (shiftWords? (Text.words (' ' :: (count ++ ' ' :: letter)))).bind fun shift =>
        some (style, shift) else none) = _
    rw [Text.words_cons_of_isBlank (by decide), hshift.shiftWords?_words]
    rfl
  unfold datetime
  rw [harguments]
  dsimp only
  rw [hshift.shifted_eq hmoved]
  rfl

theorem outcome_evaluate_datetime_shifted {sources : Sources} {name : Text} {style : Style}
    (hstyle : IsStyle name style) (hmoved : sources.clock.shift number unit = .ok moved) :
    (evaluate (shiftCall ("$datetime " ++ name) count letter)).outcome sources =
      (write moved style, sources) := by
  have hcall := outcome_evaluate_append (by decide : "datetime".toList.all _ = true) (by decide)
    rfl (hshift.isTrimmed_styled hstyle) (hstyle.append_ne_nil _) sources
  exact hcall.trans (congrArg (·, sources) (datetime_shifted hshift hstyle hmoved))

theorem outcome_evaluate_localDatetime_shifted {sources : Sources} {name : Text} {style : Style}
    (hstyle : IsStyle name style)
    (hmoment : sources.clock.withOffset (60 * sources.localOffset) = .ok moment)
    (hmoved : moment.shift number unit = .ok moved) :
    (evaluate (shiftCall ("$localDatetime " ++ name) count letter)).outcome sources =
      (write moved style, sources) := by
  have hcall := outcome_evaluate_append (by decide : "localDatetime".toList.all _ = true)
    (by decide) rfl (hshift.isTrimmed_styled hstyle) (hstyle.append_ne_nil _) sources
  have hnow : localNow sources = .ok moment := by
    rw [localNow, hmoment]
    rfl
  refine hcall.trans (congrArg (·, sources) ?_)
  rw [hnow]
  exact datetime_shifted hshift hstyle hmoved

end Shifts

/-! ## Timestamps -/

section Timestamps

variable {sources : Sources} (hclock : sources.clock.IsUniversal)

include hclock

theorem outcome_evaluate_timestamp_eq :
    (evaluate "$timestamp").outcome sources = (.ok (Text.ofInt (sources.clock.elapsed +
      if IsAhead sources.clock.elapsed sources.clock.microsecond then 1 else 0)), sources) := by
  rw [outcome_evaluate_timestamp, hclock.timestamp_eq]

theorem outcome_evaluate_timestamp_shifted_eq {count letter : Text} {number seconds : Int}
    {unit : ShiftUnit} (hshift : IsShift count letter number unit seconds)
    (hrange : InCalendar (sources.clock.localSeconds + number * seconds)) :
    (evaluate (shiftCall "$timestamp" count letter)).outcome sources =
      (.ok (Text.ofInt (sources.clock.elapsed + number * seconds +
        if IsAhead (sources.clock.elapsed + number * seconds) sources.clock.microsecond then 1
        else 0)), sources) := by
  obtain ⟨moved, hmoved⟩ := exists_shift hshift.seconds_eq hrange
  obtain ⟨huniversal, helapsed, hpart⟩ := IsUniversal.of_shift hshift.seconds_eq hclock hmoved
  rw [outcome_evaluate_timestamp_shifted hshift hmoved, huniversal.timestamp_eq, helapsed, hpart]

/-- A timestamp is the whole seconds that have passed since 1970, or one more, and so is the shifted
one.  So they differ by the shift just if both are ahead or neither is, which near 1970 means that
the second is a whole one or both are on the same side of 1970. -/
theorem evaluate_timestamp_shifted {count letter : Text} {number seconds : Int} {unit : ShiftUnit}
    (hshift : IsShift count letter number unit seconds)
    (hrange : InCalendar (sources.clock.localSeconds + number * seconds)) :
    let before := sources.clock.elapsed
    let after := before + number * seconds
    let part := sources.clock.microsecond
    ∃ now later : Int,
      (evaluate "$timestamp").outcome sources = (.ok (Text.ofInt now), sources) ∧
      (evaluate (shiftCall "$timestamp" count letter)).outcome sources =
        (.ok (Text.ofInt later), sources) ∧
      now = before + (if IsAhead before part then 1 else 0) ∧
      later = after + (if IsAhead after part then 1 else 0) ∧
      (later = now + number * seconds ↔ (IsAhead after part ↔ IsAhead before part)) ∧
      (-2 ^ 34 ≤ before ∧ before < 2 ^ 34 → -2 ^ 34 ≤ after ∧ after < 2 ^ 34 →
        (later = now + number * seconds ↔ part = 0 ∨ (after < 0 ↔ before < 0))) := by
  intro before after part
  have hsame : (after + if IsAhead after part then 1 else 0) =
      before + (if IsAhead before part then 1 else 0) + number * seconds ↔
        (IsAhead after part ↔ IsAhead before part) := by
    split_ifs with hlaterAhead hnowAhead hnowAhead
    · exact iff_of_true (by omega) (iff_of_true hlaterAhead hnowAhead)
    · exact iff_of_false (by omega) fun hboth => hnowAhead (hboth.mp hlaterAhead)
    · exact iff_of_false (by omega) fun hboth => hlaterAhead (hboth.mpr hnowAhead)
    · exact iff_of_true (by omega) (iff_of_false hlaterAhead hnowAhead)
  refine ⟨_, _, outcome_evaluate_timestamp_eq hclock,
    outcome_evaluate_timestamp_shifted_eq hclock hshift hrange, rfl, rfl, hsame,
    fun hbefore hbehind => hsame.trans ?_⟩
  have hlt : part < 1000000 := hclock.microsecond_lt
  rw [isAhead_iff hlt hbehind.1 hbehind.2, isAhead_iff hlt hbefore.1 hbefore.2]
  omega

end Timestamps

/-- A whole second in 2024, and twenty thousand weeks before it, in 1640. -/
theorem evaluate_timestamp_shifted_back :
    let sources := Sources.sample
    sources.clock.IsUniversal ∧ IsShift "-20000" "w" (-20000) .week 604800 ∧
      InCalendar (sources.clock.localSeconds + -20000 * 604800) ∧
      ∃ now later : Int, now = 1706697015 ∧ later = -10389302985 ∧
        (evaluate "$timestamp").outcome sources = (.ok (Text.ofInt now), sources) ∧
        (evaluate "$timestamp -20000 w").outcome sources = (.ok (Text.ofInt later), sources) ∧
        later = now + -20000 * 604800 := by
  intro sources
  have hclock : sources.clock.IsUniversal := by decide
  have hshift : IsShift "-20000" "w" (-20000) .week 604800 := ⟨by decide, by decide, rfl⟩
  have hrange : InCalendar (sources.clock.localSeconds + -20000 * 604800) := by decide
  obtain ⟨now, later, hnow, hlater, hbefore, -, -, hnear⟩ :=
    evaluate_timestamp_shifted hclock hshift hrange
  have hsame := (hnear (by decide) (by decide)).mpr (.inl rfl)
  have hvalue : now = 1706697015 := hbefore.trans (by decide)
  have hlaterValue : later = -10389302985 := by
    rw [hsame, hvalue]
    rfl
  exact ⟨hclock, hshift, hrange, now, later, hvalue, hlaterValue, hnow, hlater, hsame⟩

/-- Half a second before 1970 and half a second after it are both cut to zero.  And where floating
point numbers are far apart, the last microsecond of a second is rounded to the next one. -/
theorem evaluate_timestamp_not_shifted :
    let old : Sources :=
      { Sources.sample with clock := ⟨⟨1969, 12, 31⟩, 23, 59, 59, 500000, some 0⟩ }
    let recent : Sources :=
      { Sources.sample with clock := ⟨⟨2024, 1, 1⟩, 0, 0, 0, 999999, some 0⟩ }
    (old.clock.IsUniversal ∧ IsShift "1" "s" 1 .second 1 ∧
      InCalendar (old.clock.localSeconds + 1 * 1) ∧
      (evaluate "$timestamp").outcome old = (.ok "0", old) ∧
      (evaluate "$timestamp 1 s").outcome old = (.ok "0", old)) ∧
    recent.clock.IsUniversal ∧ IsShift "30000" "w" 30000 .week 604800 ∧
      InCalendar (recent.clock.localSeconds + 30000 * 604800) ∧
      (evaluate "$timestamp").outcome recent = (.ok "1704067200", recent) ∧
      (evaluate "$timestamp 30000 w").outcome recent = (.ok "19848067201", recent) ∧
      (1704067200 : Int) + 30000 * 604800 = 19848067200 := by
  intro old recent
  have hold : old.clock.IsUniversal := by decide
  have hrecent : recent.clock.IsUniversal := by decide
  have hsecond : IsShift "1" "s" 1 .second 1 := ⟨by decide, by decide, rfl⟩
  have hweek : IsShift "30000" "w" 30000 .week 604800 := ⟨by decide, by decide, rfl⟩
  have holdRange : InCalendar (old.clock.localSeconds + 1 * 1) := by decide
  have hrecentRange : InCalendar (recent.clock.localSeconds + 30000 * 604800) := by decide
  refine ⟨⟨hold, hsecond, holdRange, ?_, ?_⟩, hrecent, hweek, hrecentRange, ?_, ?_, by decide⟩
  · rw [outcome_evaluate_timestamp_eq hold]
    exact congrArg (fun text => (Except.ok text, old)) (by decide)
  · have hcall : ("$timestamp 1 s" : Text) = shiftCall "$timestamp" "1" "s" := by decide
    rw [hcall, outcome_evaluate_timestamp_shifted_eq hold hsecond holdRange]
    exact congrArg (fun text => (Except.ok text, old)) (by decide)
  · rw [outcome_evaluate_timestamp_eq hrecent]
    exact congrArg (fun text => (Except.ok text, recent)) (by decide)
  · have hcall : ("$timestamp 30000 w" : Text) = shiftCall "$timestamp" "30000" "w" := by decide
    rw [hcall, outcome_evaluate_timestamp_shifted_eq hrecent hweek hrecentRange]
    exact congrArg (fun text => (Except.ok text, recent)) (by decide)

/-! ## Local dates -/

/-- The local date and the date by universal time, both shifted, are the same in a message, and in
the standard form they are date-times of the same instant, the local one with its offset.  This
instant is the present one moved by the shift, and it is also the one of the message. -/
theorem evaluate_localDatetime_shifted {sources : Sources} (hclock : sources.clock.IsUniversal)
    {count letter : Text} {number seconds : Int} {unit : ShiftUnit}
    (hshift : IsShift count letter number unit seconds)
    (hlocal : InCalendar (sources.clock.localSeconds + 60 * sources.localOffset))
    (hmoved : InCalendar (sources.clock.localSeconds + number * seconds))
    (hboth : InCalendar
      (sources.clock.localSeconds + 60 * sources.localOffset + number * seconds)) :
    ∃ (message hereText thereText : Text) (here there : DateTime),
      (evaluate (shiftCall "$localDatetime rfc1123" count letter)).outcome sources =
        (.ok message, sources) ∧
      (evaluate (shiftCall "$datetime rfc1123" count letter)).outcome sources =
        (.ok message, sources) ∧
      (evaluate (shiftCall "$localDatetime iso8601" count letter)).outcome sources =
        (.ok hereText, sources) ∧
      (evaluate (shiftCall "$datetime iso8601" count letter)).outcome sources =
        (.ok thereText, sources) ∧
      ofIso8601? hereText = some here ∧ here.Valid ∧
      here.offset = some (60 * sources.localOffset) ∧
      ofIso8601? thereText = some there ∧ there.Valid ∧ there.offset = some 0 ∧
      here.universalSeconds = there.universalSeconds ∧
      there.universalSeconds = sources.clock.universalSeconds + number * seconds ∧
      there.rfc1123 = .ok message := by
  have hunit := hshift.seconds_eq
  obtain ⟨now, here, there, hnow, hhere, hvalid, hoffset, hthere, huniversal, hset⟩ :=
    hclock.exists_shift_withOffset hunit hlocal hmoved hboth
  -- messages are written by universal time, and there both are the same date-time
  have hmessage : here.rfc1123 = there.rfc1123 := by
    rw [rfc1123_eq hset, rfc1123_eq huniversal.withOffset_zero]
  have hinstant : there.universalSeconds = here.universalSeconds :=
    ((withOffset_eq_ok_iff hvalid.microsecond_lt).mp hset).2.1
  have hshifted : there.universalSeconds = sources.clock.universalSeconds + number * seconds :=
    ((shift_eq_ok_iff hunit hclock.toValid).mp hthere).2.1
  have hzero : there.offset = some (60 * 0) := huniversal.offset_eq
  have hprinted {moment : DateTime} (hmoment : moment.rfc1123 = there.rfc1123) :
      write moment .rfc1123 = .ok (there.format "EEE, dd MMM yyyy HH:mm:ss 'GMT'") := by
    rw [write, hmoment, rfc1123_eq huniversal.withOffset_zero]
    rfl
  refine ⟨there.format "EEE, dd MMM yyyy HH:mm:ss 'GMT'", here.iso8601, there.iso8601,
    here.wholeSecond, there.wholeSecond, ?_, ?_, ?_, ?_,
    ofIso8601?_iso8601 hvalid.second_lt hoffset, hvalid.wholeSecond, hoffset,
    ofIso8601?_iso8601 huniversal.second_lt hzero,
    huniversal.toValid.wholeSecond, huniversal.offset_eq, hinstant.symm, hshifted,
    huniversal.rfc1123_wholeSecond.trans (rfc1123_eq huniversal.withOffset_zero)⟩
  · rw [← hprinted hmessage]
    exact outcome_evaluate_localDatetime_shifted hshift isStyle_rfc1123 hnow hhere
  · rw [← hprinted rfl]
    exact outcome_evaluate_datetime_shifted hshift isStyle_rfc1123 hthere
  · exact outcome_evaluate_localDatetime_shifted hshift isStyle_iso8601 hnow hhere
  · exact outcome_evaluate_datetime_shifted hshift isStyle_iso8601 hthere

/-- A day on, by a local clock that shows the leap day already. -/
theorem evaluate_localDatetime_shifted_leap :
    let clock : DateTime := ⟨⟨2024, 2, 28⟩, 23, 30, 15, 500000, some 0⟩
    let sources : Sources := { Sources.sample with clock, localOffset := 330 }
    sources.clock.IsUniversal ∧ IsShift "1" "d" 1 .day 86400 ∧
      InCalendar (sources.clock.localSeconds + 60 * 330) ∧
      InCalendar (sources.clock.localSeconds + 1 * 86400) ∧
      InCalendar (sources.clock.localSeconds + 60 * 330 + 1 * 86400) ∧
      ∃ (message : Text) (here there : DateTime),
        (evaluate "$localDatetime rfc1123 1 d").outcome sources = (.ok message, sources) ∧
        (evaluate "$datetime rfc1123 1 d").outcome sources = (.ok message, sources) ∧
        (evaluate "$localDatetime iso8601 1 d").outcome sources =
          (.ok "2024-03-01T05:00:15+05:30", sources) ∧
        (evaluate "$datetime iso8601 1 d").outcome sources =
          (.ok "2024-02-29T23:30:15+00:00", sources) ∧
        ofIso8601? "2024-03-01T05:00:15+05:30" = some here ∧
        ofIso8601? "2024-02-29T23:30:15+00:00" = some there ∧
        here.universalSeconds = there.universalSeconds ∧ there.rfc1123 = .ok message := by
  intro clock sources
  have hclock : sources.clock.IsUniversal := by decide
  have hshift : IsShift "1" "d" 1 .day 86400 := ⟨by decide, by decide, rfl⟩
  have hlocal : InCalendar (sources.clock.localSeconds + 60 * 330) := by decide
  have hmoved : InCalendar (sources.clock.localSeconds + 1 * 86400) := by decide
  have hboth : InCalendar (sources.clock.localSeconds + 60 * 330 + 1 * 86400) := by decide
  obtain ⟨message, hereText, thereText, here, there, hlocalMessage, hmessage, hhere, hthere,
    hreadHere, -, -, hreadThere, -, -, hinstant, -, hwritten⟩ :=
    evaluate_localDatetime_shifted hclock hshift hlocal hmoved hboth
  have hnow : sources.clock.withOffset (60 * 330) =
      .ok ⟨⟨2024, 2, 29⟩, 5, 0, 15, 500000, some 19800⟩ := by decide
  have hlater : DateTime.shift ⟨⟨2024, 2, 29⟩, 5, 0, 15, 500000, some 19800⟩ 1 .day =
      .ok ⟨⟨2024, 3, 1⟩, 5, 0, 15, 500000, some 19800⟩ := by decide
  have huniversal : sources.clock.shift 1 .day =
      .ok ⟨⟨2024, 2, 29⟩, 23, 30, 15, 500000, some 0⟩ := by decide
  have hhereText : hereText = "2024-03-01T05:00:15+05:30".toList := by
    have hcall := outcome_evaluate_localDatetime_shifted hshift isStyle_iso8601 hnow hlater
    exact (Except.ok.inj (congrArg Prod.fst (hhere.symm.trans hcall))).trans (by decide)
  have hthereText : thereText = "2024-02-29T23:30:15+00:00".toList := by
    have hcall := outcome_evaluate_datetime_shifted hshift isStyle_iso8601 huniversal
    exact (Except.ok.inj (congrArg Prod.fst (hthere.symm.trans hcall))).trans (by decide)
  subst hhereText hthereText
  exact ⟨hclock, hshift, hlocal, hmoved, hboth, message, here, there, hlocalMessage, hmessage,
    hhere, hthere, hreadHere, hreadThere, hinstant, hwritten⟩

end HttpScript.Function
