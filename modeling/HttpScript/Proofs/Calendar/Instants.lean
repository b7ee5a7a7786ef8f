import HttpScript.Calendar.DateTime
import HttpScript.Proofs.Calendar.Days

/-!
# The time line

A clock goes on by one second at a time, and at midnight the calendar goes on by a day.  What a
date-time shows is the same thing as the seconds that its clock has counted (`localSeconds`), as
long as the fraction of a second and the offset of the clock are kept apart: each second is shown by
one date-time, and the next one is shown by the next second of the clock.

So `atLocalSeconds`, which divides the seconds into days, hours, minutes and seconds, finds the one
date-time that shows them, and it finds one just if the year is not beyond the last one.
-/

namespace HttpScript.DateTime

/-- A date-time that a calendar and a clock show, in any year from the first one on. -/
structure OnClock (moment : DateTime) : Prop where
  date : moment.date.OnCalendar
  hour_lt : moment.hour < 24
  minute_lt : moment.minute < 60
  second_lt : moment.second < 60
  microsecond_lt : moment.microsecond < 1000000

/-- A date-time of the years one to 9999. -/
structure Valid (moment : DateTime) : Prop extends OnClock moment where
  year_le : moment.date.year ≤ Date.maxYear

/-- What a clock shows a second later. -/
def tick (moment : DateTime) : DateTime :=
  if moment.second + 1 < 60 then { moment with second := moment.second + 1 }
  else if moment.minute + 1 < 60 then { moment with minute := moment.minute + 1, second := 0 }
  else if moment.hour + 1 < 24 then
    { moment with hour := moment.hour + 1, minute := 0, second := 0 }
  else { moment with date := moment.date.next, hour := 0, minute := 0, second := 0 }

/-! ## Seconds that are shown -/

/-- The seconds of the local clock since midnight. -/
def secondOfDay (moment : DateTime) : Nat :=
  moment.hour * 3600 + moment.minute * 60 + moment.second

theorem localSeconds_eq (moment : DateTime) :
    moment.localSeconds = (moment.date.dayNumber : Int) * 86400 + moment.secondOfDay := by
  unfold localSeconds secondOfDay
  omega

namespace OnClock

variable {moment other : DateTime}

theorem secondOfDay_lt (hmoment : moment.OnClock) : moment.secondOfDay < 86400 := by
  obtain ⟨-, hhour, hminute, hsecond, -⟩ := hmoment
  unfold secondOfDay
  omega

theorem localSeconds_div (hmoment : moment.OnClock) :
    moment.localSeconds / 86400 = moment.date.dayNumber := by
  have hlt := hmoment.secondOfDay_lt
  rw [localSeconds_eq]
  omega

theorem localSeconds_mod (hmoment : moment.OnClock) :
    moment.localSeconds % 86400 = moment.secondOfDay := by
  have hlt := hmoment.secondOfDay_lt
  rw [localSeconds_eq]
  omega

/-- A second, its fraction and the offset are shown by one date-time. -/
theorem eq_of_localSeconds_eq (hmoment : moment.OnClock) (hother : other.OnClock)
    (hseconds : moment.localSeconds = other.localSeconds)
    (hmicrosecond : moment.microsecond = other.microsecond)
    (hoffset : moment.offset = other.offset) : moment = other := by
  -- the seconds are divided into the number of the day and the seconds since midnight
  have hnumber : moment.date.dayNumber = other.date.dayNumber := by
    have hdiv := congrArg (· / (86400 : Int)) hseconds
    simp only [hmoment.localSeconds_div, hother.localSeconds_div] at hdiv
    exact Int.ofNat_inj.mp hdiv
  have hdate : moment.date = other.date := by
    rw [← hmoment.date.ofDayNumber_dayNumber, hnumber, hother.date.ofDayNumber_dayNumber]
  have hday : moment.secondOfDay = other.secondOfDay := by
    have hmod := congrArg (· % (86400 : Int)) hseconds
    simp only [hmoment.localSeconds_mod, hother.localSeconds_mod] at hmod
    exact Int.ofNat_inj.mp hmod
  obtain ⟨-, -, hminute, hsecond, -⟩ := hmoment
  obtain ⟨-, -, hotherMinute, hotherSecond, -⟩ := hother
  cases moment
  cases other
  simp only [secondOfDay] at hday hminute hsecond hotherMinute hotherSecond hdate
  simp only [mk.injEq]
  exact ⟨hdate, by omega, by omega, by omega, hmicrosecond, hoffset⟩

/-- A second later the clock has counted one second more. -/
theorem tick (hmoment : moment.OnClock) :
    moment.tick.OnClock ∧ moment.tick.localSeconds = moment.localSeconds + 1 ∧
      moment.tick.microsecond = moment.microsecond ∧ moment.tick.offset = moment.offset := by
  obtain ⟨hdate, hhour, hminute, hsecond, hmicrosecond⟩ := hmoment
  unfold DateTime.tick localSeconds
  split_ifs with hnextSecond hnextMinute hnextHour
  · refine ⟨⟨hdate, hhour, hminute, hnextSecond, hmicrosecond⟩, ?_, rfl, rfl⟩
    dsimp only
    omega
  · refine ⟨⟨hdate, hhour, hnextMinute, Nat.zero_lt_succ 59, hmicrosecond⟩, ?_, rfl, rfl⟩
    dsimp only
    omega
  · refine ⟨⟨hdate, hnextHour, Nat.zero_lt_succ 59, Nat.zero_lt_succ 59, hmicrosecond⟩,
      ?_, rfl, rfl⟩
    dsimp only
    omega
  · obtain ⟨hnext, hnumber⟩ := hdate.next
    refine ⟨⟨hnext, Nat.zero_lt_succ 23, Nat.zero_lt_succ 59, Nat.zero_lt_succ 59, hmicrosecond⟩,
      ?_, rfl, rfl⟩
    simp only [hnumber]
    omega

theorem iterate_tick (hmoment : moment.OnClock) (seconds : Nat) :
    (DateTime.tick^[seconds] moment).OnClock ∧
      (DateTime.tick^[seconds] moment).localSeconds = moment.localSeconds + seconds ∧
      (DateTime.tick^[seconds] moment).microsecond = moment.microsecond ∧
      (DateTime.tick^[seconds] moment).offset = moment.offset := by
  induction seconds with
  | zero => exact ⟨hmoment, (Int.add_zero _).symm, rfl, rfl⟩
  | succ seconds ih =>
      obtain ⟨hclock, hlocal, hmicrosecond, hoffset⟩ := ih
      obtain ⟨hnext, hnextLocal, hnextMicrosecond, hnextOffset⟩ := hclock.tick
      rw [Function.iterate_succ_apply']
      refine ⟨hnext, ?_, hnextMicrosecond.trans hmicrosecond, hnextOffset.trans hoffset⟩
      rw [hnextLocal, hlocal]
      omega

/-- Of two date-times with the same fraction of a second and the same offset the later one is what
the clock comes to from the earlier one. -/
theorem eq_iterate_tick (hmoment : moment.OnClock) (hother : other.OnClock) {seconds : Nat}
    (hseconds : other.localSeconds = moment.localSeconds + seconds)
    (hmicrosecond : other.microsecond = moment.microsecond)
    (hoffset : other.offset = moment.offset) : other = DateTime.tick^[seconds] moment := by
  obtain ⟨hclock, hlocal, hsameMicrosecond, hsameOffset⟩ := hmoment.iterate_tick seconds
  exact hother.eq_of_localSeconds_eq hclock (hseconds.trans hlocal.symm)
    (hmicrosecond.trans hsameMicrosecond.symm) (hoffset.trans hsameOffset.symm)

end OnClock

/-! ## The date-time at given seconds -/

/-- The first second of the calendar. -/
def first : DateTime :=
  ⟨⟨1, 1, 1⟩, 0, 0, 0, 0, none⟩

/-- The last second of the calendar. -/
def last : DateTime :=
  ⟨⟨9999, 12, 31⟩, 23, 59, 59, 0, none⟩

theorem localSeconds_first : first.localSeconds = 86400 := by decide

theorem localSeconds_last : last.localSeconds = (Date.maxDayNumber + 1 : Int) * 86400 - 1 := by
  decide

theorem onClock_of_rest {date : Date} (hdate : date.OnCalendar) {moment : DateTime}
    (hmicrosecond : moment.microsecond < 1000000) {rest : Nat} (hrest : rest < 86400) :
    let found : DateTime := { moment with
      date, hour := rest / 3600, minute := rest / 60 % 60, second := rest % 60 }
    found.OnClock ∧ found.localSeconds = (date.dayNumber : Int) * 86400 + rest := by
  refine ⟨⟨hdate, ?_, Nat.mod_lt _ (Nat.zero_lt_succ 59), Nat.mod_lt _ (Nat.zero_lt_succ 59),
    hmicrosecond⟩, ?_⟩
  · dsimp only
    omega
  · unfold localSeconds
    dsimp only
    omega

/-- There is a date-time at given seconds just if they are seconds of the years one to 9999, and it
is the one that shows them. -/
theorem atLocalSeconds_eq_ok_iff {moment moved : DateTime}
    (hmicrosecond : moment.microsecond < 1000000) {seconds : Int} :
    moment.atLocalSeconds seconds = .ok moved ↔
      moved.Valid ∧ moved.localSeconds = seconds ∧ moved.microsecond = moment.microsecond ∧
        moved.offset = moment.offset := by
  have hrest : (seconds % 86400).toNat < 86400 := by omega
  have hsplit : seconds = seconds / 86400 * 86400 + (seconds % 86400).toNat := by omega
  unfold atLocalSeconds
  dsimp only
  split_ifs with hrange
  · have hnumber : ((seconds / 86400).toNat : Int) = seconds / 86400 := by omega
    have hpos : 1 ≤ (seconds / 86400).toNat := by omega
    obtain ⟨hdate, hdayNumber⟩ := Date.onCalendar_ofDayNumber hpos
    obtain ⟨hclock, hseconds⟩ := onClock_of_rest hdate hmicrosecond hrest
    have hvalid := (Date.valid_ofDayNumber_iff hpos).mpr (by omega)
    rw [hdayNumber, hnumber, ← hsplit] at hseconds
    constructor
    · rintro ⟨⟩
      exact ⟨⟨hclock, (Date.valid_iff.mp hvalid).2⟩, hseconds, rfl, rfl⟩
    · rintro ⟨hmoved, hmovedSeconds, hsameMicrosecond, hsameOffset⟩
      exact congrArg Except.ok (hclock.eq_of_localSeconds_eq hmoved.toOnClock
        (hseconds.trans hmovedSeconds.symm) hsameMicrosecond.symm hsameOffset.symm)
  · -- a date-time that shows the seconds would have a day number in the range
    refine ⟨nofun, fun ⟨hmoved, hmovedSeconds, _, _⟩ => (hrange ?_).elim⟩
    rw [← hmovedSeconds, hmoved.localSeconds_div]
    have hpos := hmoved.date.dayNumber_pos
    have hvalid : moved.date.Valid := Date.valid_iff.mpr ⟨hmoved.date, hmoved.year_le⟩
    rw [← hmoved.date.ofDayNumber_dayNumber, Date.valid_ofDayNumber_iff hpos] at hvalid
    exact ⟨Int.ofNat_le.mpr hpos, Int.ofNat_le.mpr hvalid⟩

/-- The seconds at which there is a date-time are those from the first to the last one. -/
theorem exists_atLocalSeconds_eq_ok_iff (moment : DateTime) (seconds : Int) :
    (∃ moved, moment.atLocalSeconds seconds = .ok moved) ↔
      first.localSeconds ≤ seconds ∧ seconds ≤ last.localSeconds := by
  rw [localSeconds_first, localSeconds_last]
  unfold atLocalSeconds
  dsimp only
  split_ifs with hrange
  · refine iff_of_true ⟨_, rfl⟩ ?_
    omega
  · refine iff_of_false nofun ?_
    omega

end HttpScript.DateTime
