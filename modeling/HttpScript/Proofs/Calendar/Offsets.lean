import HttpScript.Calendar.Format
import HttpScript.Proofs.Calendar.Timestamps
import HttpScript.Proofs.Text.Digits

/-!
# Clocks of different offsets

The same instant is shown by clocks of different offsets with different times, and often with
different dates.  A shift by units of a fixed length moves the clock, not the instant, but both move
by the same seconds, so shifting a clock and setting it to another offset can be exchanged
(`withOffset_shift`).

A printed date-time in the standard form denotes an instant, since it has its offset with it.
Reading it back (`ofIso8601?`) gives the date-time without its fraction of a second.
-/

namespace HttpScript.DateTime

variable {moment moved : DateTime} {offset : Int}

/-! ## The same instant by another clock -/

theorem withOffset_eq_ok_iff (hmicrosecond : moment.microsecond < 1000000) :
    moment.withOffset offset = .ok moved ↔
      moved.Valid ∧ moved.universalSeconds = moment.universalSeconds ∧
        moved.microsecond = moment.microsecond ∧ moved.offset = some offset := by
  have hlocal (hoffset : moved.offset = some offset) :
      moved.localSeconds = moment.universalSeconds + offset ↔
        moved.universalSeconds = moment.universalSeconds := by
    have huniversal : moved.universalSeconds = moved.localSeconds - offset := by
      rw [universalSeconds, hoffset]
      rfl
    omega
  have hset : { moment with offset := some offset }.microsecond < 1000000 := hmicrosecond
  refine (atLocalSeconds_eq_ok_iff hset).trans (and_congr_right fun _ => ?_)
  constructor
  · rintro ⟨hseconds, hsame, hoffset⟩
    exact ⟨(hlocal hoffset).mp hseconds, hsame, hoffset⟩
  · rintro ⟨hseconds, hsame, hoffset⟩
    exact ⟨(hlocal hoffset).mpr hseconds, hsame, hoffset⟩

theorem exists_withOffset (hrange : InCalendar (moment.universalSeconds + offset)) :
    ∃ moved, moment.withOffset offset = .ok moved :=
  (exists_atLocalSeconds_eq_ok_iff _ _).mpr hrange

/-- A clock of another offset that is shifted shows what the shifted clock does when it is set to
that offset. -/
theorem withOffset_shift {here there : DateTime} {unit : ShiftUnit} {count seconds : Int}
    (hunit : unit.seconds? = some seconds) (hmoment : moment.Valid)
    (hhere : moment.withOffset offset = .ok here) (hmoved : moment.shift count unit = .ok moved)
    (hthere : here.shift count unit = .ok there) : moved.withOffset offset = .ok there := by
  obtain ⟨hvalid, hinstant, hmicrosecond, hoffset⟩ :=
    (withOffset_eq_ok_iff hmoment.microsecond_lt).mp hhere
  obtain ⟨hmovedValid, hmovedInstant, hmovedMicrosecond, -⟩ :=
    (shift_eq_ok_iff hunit hmoment).mp hmoved
  obtain ⟨hthereValid, hthereInstant, hthereMicrosecond, hthereOffset⟩ :=
    (shift_eq_ok_iff hunit hvalid).mp hthere
  refine (withOffset_eq_ok_iff hmovedValid.microsecond_lt).mpr
    ⟨hthereValid, ?_, ?_, hthereOffset.trans hoffset⟩
  · rw [hthereInstant, hinstant, hmovedInstant]
  · rw [hthereMicrosecond, hmicrosecond, hmovedMicrosecond]

/-- Setting a clock back to its own offset gives the clock that it was before. -/
theorem withOffset_withOffset {own : Int} (hmoment : moment.Valid) (hown : moment.offset = some own)
    (hmoved : moment.withOffset offset = .ok moved) : moved.withOffset own = .ok moment := by
  obtain ⟨hvalid, hinstant, hmicrosecond, -⟩ :=
    (withOffset_eq_ok_iff hmoment.microsecond_lt).mp hmoved
  exact (withOffset_eq_ok_iff hvalid.microsecond_lt).mpr
    ⟨hmoment, hinstant.symm, hmicrosecond.symm, hown⟩

theorem IsUniversal.withOffset_zero (hmoment : moment.IsUniversal) :
    moment.withOffset 0 = .ok moment :=
  (withOffset_eq_ok_iff hmoment.microsecond_lt).mpr ⟨hmoment.toValid, rfl, rfl, hmoment.offset_eq⟩

/-- A clock of universal time and one of another offset are shifted to clocks of the same instant,
if all of them stay in the calendar. -/
theorem IsUniversal.exists_shift_withOffset {unit : ShiftUnit} {count seconds : Int}
    (hunit : unit.seconds? = some seconds) (hmoment : moment.IsUniversal)
    (hhere : InCalendar (moment.localSeconds + offset))
    (hmoved : InCalendar (moment.localSeconds + count * seconds))
    (hthere : InCalendar (moment.localSeconds + offset + count * seconds)) :
    ∃ here there moved, moment.withOffset offset = .ok here ∧ here.shift count unit = .ok there ∧
      there.Valid ∧ there.offset = some offset ∧ moment.shift count unit = .ok moved ∧
      moved.IsUniversal ∧ there.withOffset 0 = .ok moved := by
  rw [← hmoment.universalSeconds_eq] at hhere hthere
  obtain ⟨here, hhere⟩ := exists_withOffset hhere
  obtain ⟨hhereValid, hinstant, -, hhereOffset⟩ :=
    (withOffset_eq_ok_iff hmoment.microsecond_lt).mp hhere
  -- a shift goes by the seconds that the clock itself shows
  have hlocal : here.localSeconds = moment.universalSeconds + offset := by
    have huniversal : here.universalSeconds = here.localSeconds - offset := by
      rw [universalSeconds, hhereOffset]
      rfl
    omega
  rw [← hlocal] at hthere
  obtain ⟨there, hthere⟩ := exists_shift hunit hthere
  obtain ⟨hthereValid, -, -, hthereOffset⟩ := (shift_eq_ok_iff hunit hhereValid).mp hthere
  obtain ⟨moved, hmoved⟩ := exists_shift hunit hmoved
  have huniversal : moved.IsUniversal := (of_shift hunit hmoment hmoved).1
  have hset := withOffset_shift hunit hmoment.toValid hhere hmoved hthere
  exact ⟨here, there, moved, hhere, hthere, hthereValid, hthereOffset.trans hhereOffset, hmoved,
    huniversal, withOffset_withOffset huniversal.toValid huniversal.offset_eq hset⟩

/-- A date-time in messages, from the same instant by universal time. -/
theorem rfc1123_eq {universal : DateTime} (huniversal : moment.withOffset 0 = .ok universal) :
    moment.rfc1123 = .ok (universal.format "EEE, dd MMM yyyy HH:mm:ss 'GMT'") := by
  rw [rfc1123, huniversal]
  rfl

/-- A date-time without the fraction of its second. -/
def wholeSecond (moment : DateTime) : DateTime :=
  { moment with microsecond := 0 }

theorem Valid.wholeSecond (hmoment : moment.Valid) : moment.wholeSecond.Valid :=
  { hmoment with microsecond_lt := (by decide : 0 < 1000000) }

/-- Messages do not show the fraction of the second. -/
theorem IsUniversal.rfc1123_wholeSecond (hmoment : moment.IsUniversal) :
    moment.wholeSecond.rfc1123 = moment.rfc1123 := by
  have hwhole : moment.wholeSecond.IsUniversal := ⟨hmoment.toValid.wholeSecond, hmoment.offset_eq⟩
  rw [rfc1123_eq hwhole.withOffset_zero, rfc1123_eq hmoment.withOffset_zero]
  rfl

/-! ## The standard form -/

/-- The number in front of a mark, and what stands behind the mark. -/
def numberBefore? (mark : Char) (text : Text) : Option (Nat × Text) := do
  let (digits, rest) ← Text.splitAt? mark text
  return (← Text.toNat? digits, rest)

/-- The minutes of an offset in hours and minutes. -/
def offsetMinutes? (text : Text) : Option Nat := do
  let (hours, minutes) ← numberBefore? ':' text
  return 60 * hours + (← Text.toNat? minutes)

/-- The seconds by which an offset is ahead of universal time. -/
def offset? : Text → Option Int
  | '+' :: text => (offsetMinutes? text).map fun minutes : Nat => 60 * (minutes : Int)
  | '-' :: text => (offsetMinutes? text).map fun minutes : Nat => 60 * -(minutes : Int)
  | _ => none

/-- The date-time that a text in the standard form denotes. -/
def ofIso8601? (text : Text) : Option DateTime := do
  let (year, text) ← numberBefore? '-' text
  let (month, text) ← numberBefore? '-' text
  let (day, text) ← numberBefore? 'T' text
  let (hour, text) ← numberBefore? ':' text
  let (minute, text) ← numberBefore? ':' text
  let second ← Text.toNat? (text.take 2)
  let offset ← offset? (text.drop 2)
  return ⟨⟨year, month, day⟩, hour, minute, second, 0, some offset⟩

theorem numberBefore?_padded {mark : Char} (hmark : mark.isDigit = false) (width n : Nat)
    (rest : Text) : numberBefore? mark (padded width n ++ mark :: rest) = some (n, rest) := by
  have hdigits : mark ∉ padded width n := by
    intro hmem
    rw [Text.isDigit_of_mem_zeroPadded hmem] at hmark
    exact nomatch hmark
  have hread : Text.toNat? (padded width n) = some n := Text.toNat?_zeroPadded width n
  rw [numberBefore?, Text.splitAt?_append hdigits]
  change (Text.toNat? (padded width n) >>= fun n => pure (n, rest)) = _
  rw [hread]
  rfl

theorem offset?_offsetText {minutes : Int} (hoffset : moment.offset = some (60 * minutes)) :
    offset? (offsetText [':'] moment) = some (60 * minutes) := by
  have hminutes : moment.offset.getD 0 / 60 = minutes := by
    rw [hoffset]
    exact Int.mul_ediv_cancel_left minutes (by decide)
  have hread : offsetMinutes? (padded 2 (minutes.natAbs / 60) ++
      ':' :: padded 2 (minutes.natAbs % 60)) = some minutes.natAbs := by
    have hrest : Text.toNat? (padded 2 (minutes.natAbs % 60)) = some (minutes.natAbs % 60) :=
      Text.toNat?_zeroPadded _ _
    rw [offsetMinutes?, numberBefore?_padded (by decide)]
    change (Text.toNat? (padded 2 (minutes.natAbs % 60)) >>= fun rest =>
      pure (60 * (minutes.natAbs / 60) + rest)) = _
    rw [hrest]
    exact congrArg some (Nat.div_add_mod minutes.natAbs 60)
  have htext : offsetText [':'] moment = (if minutes < 0 then '-' else '+') ::
      (padded 2 (minutes.natAbs / 60) ++ ':' :: padded 2 (minutes.natAbs % 60)) := by
    rw [offsetText, hminutes, List.cons_append, List.cons_append, List.append_assoc]
    rfl
  rw [htext]
  split_ifs with hneg
  · have hbehind : 60 * -(minutes.natAbs : Int) = 60 * minutes := by omega
    rw [offset?, hread, ← hbehind]
    rfl
  · have hahead : 60 * (minutes.natAbs : Int) = 60 * minutes := by omega
    rw [offset?, hread, ← hahead]
    rfl

theorem iso8601_eq (hoffset : moment.offset = some offset) :
    moment.iso8601 = padded 4 moment.date.year ++ '-' :: (padded 2 moment.date.month ++
      '-' :: (padded 2 moment.date.day ++ 'T' :: (padded 2 moment.hour ++
      ':' :: (padded 2 moment.minute ++ ':' :: (padded 2 moment.second ++
      offsetText [':'] moment))))) := by
  have hformat : moment.format "yyyy-MM-dd'T'HH:mm:ss" =
      [padded 4 moment.date.year, ['-'], padded 2 moment.date.month, ['-'],
        padded 2 moment.date.day, ['T'], padded 2 moment.hour, [':'], padded 2 moment.minute,
        [':'], padded 2 moment.second].flatten := rfl
  rw [iso8601, hformat, hoffset]
  simp only [List.flatten_cons, List.flatten_nil, List.append_assoc,
    List.cons_append, List.nil_append, List.append_nil, Option.isSome_some, if_true]

/-- A printed date-time is read as what it is, but for the fraction of its second. -/
theorem ofIso8601?_iso8601 (hsecond : moment.second < 60) {minutes : Int}
    (hoffset : moment.offset = some (60 * minutes)) :
    ofIso8601? moment.iso8601 = some moment.wholeSecond := by
  -- behind the seconds there is no mark that ends them, so they are known by their length
  have hlength : ∀ second < 60, (padded 2 second).length = 2 := by decide
  have htwo := hlength moment.second hsecond
  have hread : Text.toNat? (padded 2 moment.second) = some moment.second :=
    Text.toNat?_zeroPadded 2 moment.second
  rw [iso8601_eq hoffset, ofIso8601?]
  simp only [numberBefore?_padded (by decide : '-'.isDigit = false),
    numberBefore?_padded (by decide : 'T'.isDigit = false),
    numberBefore?_padded (by decide : ':'.isDigit = false), Option.bind_eq_bind, Option.bind_some,
    List.take_left' htwo, List.drop_left' htwo, hread, offset?_offsetText hoffset]
  rw [← hoffset]
  rfl

end HttpScript.DateTime
