import HttpScript.Proofs.Calendar.Shifts
import HttpScript.Proofs.Number.Truncation

/-!
# Timestamps

A timestamp should be the number of whole seconds that have passed since the beginning of 1970, and
a shift by some seconds should change it by these.  It is reckoned with microseconds, brought to
seconds as a floating point number, and then cut toward zero.  So it can be a second ahead of the
whole seconds that have passed (`IsAhead`), for two reasons:

* before 1970 cutting toward zero goes up to the next second, unless the second is a whole one;
* where floating point numbers lie far apart the last microseconds of a second are rounded to the
  next one.  Before 1970 these are the first microseconds of a second, and there the rounding undoes
  what the cutting does.

Within `2 ^ 34` seconds of 1970, that is in the years 1426 to 2513, floating point numbers are close
enough to keep all microseconds apart, and only the first reason is left.
-/

namespace HttpScript.DateTime

/-- Seconds of a clock in the years one to 9999. -/
def InCalendar (seconds : Int) : Prop :=
  first.localSeconds ≤ seconds ∧ seconds ≤ last.localSeconds

instance (seconds : Int) : Decidable (InCalendar seconds) :=
  inferInstanceAs (Decidable (_ ∧ _))

theorem Valid.inCalendar {moment : DateTime} (hmoment : moment.Valid) :
    InCalendar moment.localSeconds := by
  refine (exists_atLocalSeconds_eq_ok_iff moment _).mp ⟨moment, ?_⟩
  exact (atLocalSeconds_eq_ok_iff hmoment.microsecond_lt).mpr ⟨hmoment, rfl, rfl, rfl⟩

theorem exists_shift {moment : DateTime} {unit : ShiftUnit} {count seconds : Int}
    (hunit : unit.seconds? = some seconds)
    (hrange : InCalendar (moment.localSeconds + count * seconds)) :
    ∃ moved, moment.shift count unit = .ok moved := by
  rw [shift_eq_atLocalSeconds hunit]
  exact (exists_atLocalSeconds_eq_ok_iff _ _).mpr hrange

/-- A date-time of the years one to 9999 by universal time. -/
structure IsUniversal (moment : DateTime) : Prop extends Valid moment where
  offset_eq : moment.offset = some 0

theorem isUniversal_iff {moment : DateTime} : moment.IsUniversal ↔
    moment.date.Valid ∧ moment.hour < 24 ∧ moment.minute < 60 ∧ moment.second < 60 ∧
      moment.microsecond < 1000000 ∧ moment.offset = some 0 := by
  rw [Date.valid_iff]
  constructor
  · rintro ⟨⟨⟨hdate, hhour, hminute, hsecond, hmicrosecond⟩, hyear⟩, hoffset⟩
    exact ⟨⟨hdate, hyear⟩, hhour, hminute, hsecond, hmicrosecond, hoffset⟩
  · rintro ⟨⟨hdate, hyear⟩, hhour, hminute, hsecond, hmicrosecond, hoffset⟩
    exact ⟨⟨⟨hdate, hhour, hminute, hsecond, hmicrosecond⟩, hyear⟩, hoffset⟩

instance (date : Date) : Decidable date.Valid :=
  inferInstanceAs (Decidable (_ ∧ _))

instance (moment : DateTime) : Decidable moment.IsUniversal :=
  decidable_of_iff' _ isUniversal_iff

theorem IsUniversal.universalSeconds_eq {moment : DateTime} (hmoment : moment.IsUniversal) :
    moment.universalSeconds = moment.localSeconds := by
  rw [universalSeconds, hmoment.offset_eq]
  exact Int.sub_zero _

/-- The whole seconds that have passed since the beginning of 1970, before it a negative number. -/
def elapsed (moment : DateTime) : Int :=
  moment.universalSeconds - epochSeconds

/-- The timestamp at some whole seconds and microseconds is a second ahead of the whole seconds. -/
def IsAhead (elapsed : Int) (microsecond : Nat) : Prop :=
  (0 ≤ elapsed ∧ 2 * Double.steps elapsed.toNat * (1000000 - microsecond) ≤ 1000000) ∨
    (elapsed < 0 ∧ 0 < microsecond ∧
      1000000 < 2 * Double.steps (-elapsed - 1).toNat * microsecond)

instance (elapsed : Int) (microsecond : Nat) : Decidable (IsAhead elapsed microsecond) :=
  inferInstanceAs (Decidable (_ ∨ _))

theorem isAhead_after_iff {whole microsecond : Nat} :
    IsAhead whole microsecond ↔ 2 * Double.steps whole * (1000000 - microsecond) ≤ 1000000 := by
  have hpos : (0 : Int) ≤ whole := Int.natCast_nonneg whole
  unfold IsAhead
  rw [Int.toNat_natCast]
  exact ⟨fun hahead => (hahead.resolve_right fun hbefore => by omega).2,
    fun hclose => .inl ⟨hpos, hclose⟩⟩

theorem isAhead_before_iff {whole microsecond : Nat} :
    IsAhead (-whole - 1) microsecond ↔
      0 < microsecond ∧ ¬ 2 * Double.steps whole * microsecond ≤ 1000000 := by
  have hsame : (-(-(whole : Int) - 1) - 1).toNat = whole := by omega
  unfold IsAhead
  rw [hsame, Nat.not_le]
  exact ⟨fun hahead => (hahead.resolve_left fun hafter => by omega).2,
    fun hpart => .inr ⟨by omega, hpart⟩⟩

theorem steps_pos (whole : Nat) : 0 < Double.steps whole :=
  Nat.two_pow_pos _

theorem le_steps {whole : Nat} (hwhole : whole < 2 ^ 34) : 2 ^ 19 ≤ Double.steps whole := by
  have hlog : whole.log2 < 34 := by
    rcases whole.eq_zero_or_pos with rfl | hpos
    · decide
    · exact (Nat.log2_lt hpos.ne').mpr hwhole
  exact Nat.pow_le_pow_right Nat.two_pos (by omega)

/-- Near to 1970 it is the seconds before 1970 that are not whole whose timestamps are ahead. -/
theorem isAhead_iff {elapsed : Int} {microsecond : Nat} (hmicrosecond : microsecond < 1000000)
    (hlow : -2 ^ 34 ≤ elapsed) (hhigh : elapsed < 2 ^ 34) :
    IsAhead elapsed microsecond ↔ elapsed < 0 ∧ 0 < microsecond := by
  -- half a step is less than a microsecond
  have hfar {whole missing : Nat} (hwhole : whole < 2 ^ 34) (hmissing : 1 ≤ missing) :
      1000000 < 2 * Double.steps whole * missing := by
    have hmul := Nat.mul_le_mul (Nat.mul_le_mul_left 2 (le_steps hwhole)) hmissing
    omega
  constructor
  · rintro (⟨hpos, hclose⟩ | ⟨hneg, hpart, -⟩)
    · have := @hfar elapsed.toNat (1000000 - microsecond) (by omega) (by omega)
      omega
    · exact ⟨hneg, hpart⟩
  · rintro ⟨hneg, hpart⟩
    exact .inr ⟨hneg, hpart, hfar (by omega) hpart⟩

/-- A timestamp, from the size of the microseconds since 1970 and their sign. -/
theorem timestamp_eq_signed {moment : DateTime} {negative : Bool} {size : Nat}
    (hsize : moment.elapsed * 1000000 + moment.microsecond = Double.signed negative size)
    (hsign : negative = true → 0 < size) (hbound : size < 2 ^ 52 * 1000000) :
    moment.timestamp = Double.signed negative (size / 1000000 +
      if 2 * Double.steps (size / 1000000) * (1000000 - size % 1000000) ≤ 1000000 then 1
      else 0) := by
  -- floating point numbers have a sign and a size, so the microseconds are taken apart into these
  have hnegative : decide (Double.signed negative size < 0) = negative := by
    cases negative with
    | false => exact decide_eq_false (Int.not_lt.mpr (Int.natCast_nonneg size))
    | true => exact decide_eq_true (Int.neg_neg_of_pos (Int.natCast_pos.mpr (hsign rfl)))
  have hnatAbs : (Double.signed negative size).natAbs = size := by
    cases negative with
    | false => exact Int.natAbs_natCast size
    | true => exact (Int.natAbs_neg _).trans (Int.natAbs_natCast size)
  have hread := Double.truncate?_ofFraction (by decide : 0 < 1000000) (by decide) hbound negative
  have htimestamp : moment.timestamp = ((Double.ofFraction
      (decide (moment.elapsed * 1000000 + moment.microsecond < 0))
      (moment.elapsed * 1000000 + moment.microsecond).natAbs 1000000).truncate?).getD 0 := rfl
  rw [htimestamp, hsize, hnegative, hnatAbs, hread]
  rfl

theorem timestamp_after {moment : DateTime} (hmicrosecond : moment.microsecond < 1000000)
    {whole : Nat} (hwhole : moment.elapsed = whole) (hbound : whole < 2 ^ 51) :
    moment.timestamp = whole + if IsAhead whole moment.microsecond then 1 else 0 := by
  have hsize : moment.elapsed * 1000000 + moment.microsecond =
      Double.signed false (whole * 1000000 + moment.microsecond) := by
    rw [hwhole]
    rfl
  have hdiv : (whole * 1000000 + moment.microsecond) / 1000000 = whole := by omega
  have hmissing : 1000000 - (whole * 1000000 + moment.microsecond) % 1000000 =
      1000000 - moment.microsecond := by omega
  rw [timestamp_eq_signed hsize nofun (by omega), hdiv, hmissing,
    if_congr isAhead_after_iff rfl rfl]
  split_ifs <;> rfl

/-- Before 1970 the microseconds are those that are missing to the whole second before. -/
theorem timestamp_before {moment : DateTime} (hmicrosecond : moment.microsecond < 1000000)
    {whole : Nat} (hwhole : moment.elapsed = -whole - 1) (hbound : whole < 2 ^ 51) :
    moment.timestamp = -whole - 1 + if IsAhead (-whole - 1) moment.microsecond then 1 else 0 := by
  have hsize : moment.elapsed * 1000000 + moment.microsecond =
      Double.signed true (whole * 1000000 + (1000000 - moment.microsecond)) := by
    rw [hwhole, Double.signed, if_pos rfl]
    omega
  rw [timestamp_eq_signed hsize (by omega) (by omega), Double.signed, if_pos rfl,
    if_congr isAhead_before_iff rfl rfl]
  -- at a whole second the size is a whole number too, otherwise it is less than the next one
  rcases moment.microsecond.eq_zero_or_pos with hzero | hpart
  · have hdiv : (whole * 1000000 + (1000000 - moment.microsecond)) / 1000000 = whole + 1 := by omega
    have hmissing : 1000000 - (whole * 1000000 + (1000000 - moment.microsecond)) % 1000000 =
        1000000 := by omega
    have hsteps := steps_pos (whole + 1)
    rw [hdiv, hmissing, if_neg (by omega), if_neg (by omega)]
    omega
  · have hdiv : (whole * 1000000 + (1000000 - moment.microsecond)) / 1000000 = whole := by omega
    have hmissing : 1000000 - (whole * 1000000 + (1000000 - moment.microsecond)) % 1000000 =
        moment.microsecond := by omega
    rw [hdiv, hmissing]
    split_ifs <;> omega

/-- A timestamp is the whole seconds that have passed, or one more. -/
theorem timestamp_eq {moment : DateTime} (hmicrosecond : moment.microsecond < 1000000)
    (hlow : -2 ^ 51 ≤ moment.elapsed) (hhigh : moment.elapsed < 2 ^ 51) :
    moment.timestamp =
      moment.elapsed + if IsAhead moment.elapsed moment.microsecond then 1 else 0 := by
  rcases Int.lt_or_le moment.elapsed 0 with hneg | hpos
  · obtain ⟨whole, hwhole⟩ : ∃ whole : Nat, moment.elapsed = -whole - 1 :=
      ⟨(-moment.elapsed - 1).toNat, by omega⟩
    rw [hwhole]
    exact timestamp_before hmicrosecond hwhole (by omega)
  · obtain ⟨whole, hwhole⟩ := Int.eq_ofNat_of_zero_le hpos
    rw [hwhole]
    exact timestamp_after hmicrosecond hwhole (by omega)

namespace IsUniversal

variable {moment moved : DateTime}

theorem elapsed_bounds (hmoment : moment.IsUniversal) :
    -2 ^ 51 ≤ moment.elapsed ∧ moment.elapsed < 2 ^ 51 := by
  have hepoch : epochSeconds = 62135683200 := by decide
  have hmaximum : (Date.maxDayNumber : Int) = 3652059 := by decide
  have hrange := hmoment.toValid.inCalendar
  rw [InCalendar, localSeconds_first, localSeconds_last, hmaximum] at hrange
  rw [elapsed, hmoment.universalSeconds_eq, hepoch]
  omega

theorem timestamp_eq (hmoment : moment.IsUniversal) :
    moment.timestamp =
      moment.elapsed + if IsAhead moment.elapsed moment.microsecond then 1 else 0 :=
  DateTime.timestamp_eq hmoment.microsecond_lt hmoment.elapsed_bounds.1 hmoment.elapsed_bounds.2

theorem of_shift {unit : ShiftUnit} {count seconds : Int} (hunit : unit.seconds? = some seconds)
    (hmoment : moment.IsUniversal) (hmoved : moment.shift count unit = .ok moved) :
    moved.IsUniversal ∧ moved.elapsed = moment.elapsed + count * seconds ∧
      moved.microsecond = moment.microsecond := by
  obtain ⟨hvalid, hinstant, hmicrosecond, hoffset⟩ :=
    (shift_eq_ok_iff hunit hmoment.toValid).mp hmoved
  refine ⟨⟨hvalid, hoffset.trans hmoment.offset_eq⟩, ?_, hmicrosecond⟩
  rw [elapsed, elapsed, hinstant]
  omega

end IsUniversal

end HttpScript.DateTime
