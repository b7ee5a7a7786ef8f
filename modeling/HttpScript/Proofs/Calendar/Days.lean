import HttpScript.Calendar.Date
import Mathlib.Algebra.BigOperators.Group.List.Basic
import Mathlib.Algebra.GroupWithZero.Nat
import Mathlib.Data.Nat.Basic

/-!
# Day numbers

Dates and day numbers are the same thing: every number from one on is the number of one date, and
the day after a date has the next number.  So what is reckoned with numbers is reckoned with dates.

The way from a number to a date is a division with digits of unequal sizes: four hundred years,
centuries, groups of four years, years.  The last century of four and the last year of a group are a
day longer than the others, which is why their digits are cut off at three.  `Digits` says what is
left after the division, and that is enough to know that the year is the right one.

The calendar has no last year here; `Date.Valid` is a date of the calendar up to the year 9999.
-/

namespace HttpScript.Date

/-- A date that the calendar has, in any year from the first one on. -/
structure OnCalendar (date : Date) : Prop where
  year_pos : 1 ≤ date.year
  month_pos : 1 ≤ date.month
  month_le : date.month ≤ 12
  day_pos : 1 ≤ date.day
  day_le : date.day ≤ monthLength date.year date.month

theorem valid_iff {date : Date} : date.Valid ↔ date.OnCalendar ∧ date.year ≤ maxYear := by
  constructor
  · rintro ⟨hyear, hlast, hmonth, htwelve, hday, hlength⟩
    exact ⟨⟨hyear, hmonth, htwelve, hday, hlength⟩, hlast⟩
  · rintro ⟨⟨hyear, hmonth, htwelve, hday, hlength⟩, hlast⟩
    exact ⟨hyear, hlast, hmonth, htwelve, hday, hlength⟩

/-- The day after a date. -/
def next (date : Date) : Date :=
  if date.day < monthLength date.year date.month then ⟨date.year, date.month, date.day + 1⟩
  else if date.month < 12 then ⟨date.year, date.month + 1, 1⟩
  else ⟨date.year + 1, 1, 1⟩

/-! ## The length of a year -/

/-- The number of days of a year. -/
def yearLength (year : Nat) : Nat :=
  if isLeap year then 366 else 365

theorem isLeap_iff {year : Nat} :
    isLeap year = true ↔ year % 4 = 0 ∧ (year % 100 ≠ 0 ∨ year % 400 = 0) := by
  simp [isLeap]

theorem daysBeforeYear_succ {year : Nat} (hyear : 1 ≤ year) :
    daysBeforeYear (year + 1) = daysBeforeYear year + yearLength year := by
  obtain ⟨past, rfl⟩ : ∃ past, year = past + 1 := ⟨year - 1, by omega⟩
  have hless : past / 100 ≤ past / 4 := by omega
  simp only [daysBeforeYear, yearLength, isLeap_iff, Nat.add_sub_cancel, Nat.succ_div]
  split_ifs <;> omega

theorem daysBeforeYear_mono {first second : Nat} (hfirst : 1 ≤ first) (hle : first ≤ second) :
    daysBeforeYear first ≤ daysBeforeYear second := by
  induction second, hle using Nat.le_induction with
  | base => exact le_rfl
  | succ year hle ih =>
      rw [daysBeforeYear_succ (hfirst.trans hle)]
      exact ih.trans (Nat.le_add_right _ _)

/-! ## From a day to its year -/

/-- What a number of days amounts to: cycles of four hundred years, centuries, groups of four years,
years, and the days of a year that are left. -/
structure Digits (day cycles centuries groups years rest : Nat) : Prop where
  day_eq : day = 146097 * cycles + 36524 * centuries + 1461 * groups + 365 * years + rest
  centuries_le : centuries ≤ 3
  groups_le : groups ≤ 24
  years_le : years ≤ 3
  rest_lt : rest < yearLength (400 * cycles + 100 * centuries + 4 * groups + years + 1)

theorem exists_digits (day : Nat) : ∃ cycles centuries groups years rest,
    inYears day = (400 * cycles + 100 * centuries + 4 * groups + years + 1, rest) ∧
      Digits day cycles centuries groups years rest := by
  obtain ⟨ofCycle, hofCycle⟩ : ∃ n, n = day % 146097 := ⟨_, rfl⟩
  obtain ⟨centuries, hcenturies⟩ : ∃ n, n = min (ofCycle / 36524) 3 := ⟨_, rfl⟩
  obtain ⟨ofCentury, hofCentury⟩ : ∃ n, n = ofCycle - 36524 * centuries := ⟨_, rfl⟩
  obtain ⟨ofGroup, hofGroup⟩ : ∃ n, n = ofCentury % 1461 := ⟨_, rfl⟩
  obtain ⟨years, hyears⟩ : ∃ n, n = min (ofGroup / 365) 3 := ⟨_, rfl⟩
  have hinYears : inYears day =
      (400 * (day / 146097) + 100 * centuries + 4 * (ofCentury / 1461) + years + 1,
        ofGroup - 365 * years) := by
    rw [hyears, hofGroup, hofCentury, hcenturies, hofCycle]
    rfl
  -- only the last century of four, and the last year of a group, can have the day more
  have hcentury : ofCycle = 36524 * centuries + ofCentury ∧ centuries ≤ 3 ∧ ofCentury ≤ 36524 ∧
      (centuries < 3 → ofCentury < 36524) := by omega
  have hgroup : ofCentury = 1461 * (ofCentury / 1461) + ofGroup ∧ ofCentury / 1461 ≤ 24 ∧
      ofGroup < 1461 := by omega
  have hyear : ofGroup = 365 * years + (ofGroup - 365 * years) ∧ years ≤ 3 ∧
      ofGroup - 365 * years ≤ 365 ∧ (years < 3 → ofGroup - 365 * years < 365) := by omega
  refine ⟨_, _, _, _, _, hinYears, by omega, hcentury.2.1, hgroup.2.1, hyear.2.1, ?_⟩
  generalize ofGroup - 365 * years = rest at hyear ⊢
  generalize ofCentury / 1461 = groups at hgroup ⊢
  generalize day / 146097 = cycles
  unfold yearLength
  split
  · omega
  · rename_i hleap
    rw [isLeap_iff] at hleap
    omega

theorem Digits.daysBeforeYear_eq {day cycles centuries groups years rest : Nat}
    (hdigits : Digits day cycles centuries groups years rest) :
    daysBeforeYear (400 * cycles + 100 * centuries + 4 * groups + years + 1) + rest = day := by
  obtain ⟨hday, hcenturies, hgroups, hyears, -⟩ := hdigits
  have hfours : (400 * cycles + 100 * centuries + 4 * groups + years) / 4 =
      100 * cycles + 25 * centuries + groups := by omega
  have hhundreds : (400 * cycles + 100 * centuries + 4 * groups + years) / 100 =
      4 * cycles + centuries := by omega
  have hcycles : (400 * cycles + 100 * centuries + 4 * groups + years) / 400 = cycles := by omega
  rw [daysBeforeYear, Nat.add_sub_cancel, hfours, hhundreds, hcycles]
  omega

theorem exists_inYears_eq (day : Nat) : ∃ year rest, inYears day = (year, rest) ∧ 1 ≤ year ∧
    rest < yearLength year ∧ daysBeforeYear year + rest = day := by
  obtain ⟨cycles, centuries, groups, years, rest, hinYears, hdigits⟩ := exists_digits day
  exact ⟨_, rest, hinYears, Nat.le_add_left 1 _, hdigits.rest_lt, hdigits.daysBeforeYear_eq⟩

theorem inYears_add {year rest : Nat} (hyear : 1 ≤ year) (hrest : rest < yearLength year) :
    inYears (daysBeforeYear year + rest) = (year, rest) := by
  obtain ⟨other, otherRest, hinYears, hother, hotherRest, heq⟩ :=
    exists_inYears_eq (daysBeforeYear year + rest)
  -- a day cannot lie in two years: the earlier of them is over before the later one begins
  have hyears : other = year := by
    rcases Nat.lt_trichotomy other year with hlt | hsame | hgt
    · have hle := daysBeforeYear_mono (Nat.le_add_left 1 other) hlt
      rw [daysBeforeYear_succ hother] at hle
      omega
    · exact hsame
    · have hle := daysBeforeYear_mono (Nat.le_add_left 1 year) hgt
      rw [daysBeforeYear_succ hyear] at hle
      omega
  subst hyears
  rw [hinYears, Nat.add_left_cancel heq]

/-! ## From a day of a year to its month -/

theorem sum_monthLengths (year : Nat) : (monthLengths year).sum = yearLength year := by
  unfold monthLengths yearLength
  cases isLeap year <;> rfl

theorem exists_position (year : Nat) {month : Nat} (hpos : 1 ≤ month) (hle : month ≤ 12) :
    ∃ position, ∃ hposition : position < (monthLengths year).length,
      month = position + 1 ∧ monthLength year month = (monthLengths year)[position] := by
  obtain ⟨position, rfl⟩ : ∃ position, month = position + 1 := ⟨month - 1, by omega⟩
  exact ⟨position, hle, rfl, (List.getElem_eq_getD 0).symm⟩

theorem le_monthLength (year : Nat) {month : Nat} (hpos : 1 ≤ month) (hle : month ≤ 12) :
    28 ≤ monthLength year month := by
  have hall : ∀ length ∈ monthLengths year, 28 ≤ length := by
    unfold monthLengths
    cases isLeap year <;> decide
  obtain ⟨position, hposition, -, hlength⟩ := exists_position year hpos hle
  rw [hlength]
  exact hall _ (List.getElem_mem hposition)

theorem onCalendar_first {year month : Nat} (hyear : 1 ≤ year) (hpos : 1 ≤ month)
    (hle : month ≤ 12) : (Date.mk year month 1).OnCalendar :=
  ⟨hyear, hpos, hle, le_rfl, Nat.le_trans (by decide : 1 ≤ 28) (le_monthLength year hpos hle)⟩

theorem daysBeforeMonth_eq_sum (year month : Nat) :
    daysBeforeMonth year month = ((monthLengths year).take (month - 1)).sum :=
  List.sum_eq_foldl_nat.symm

theorem daysBeforeMonth_succ (year : Nat) {month : Nat} (hpos : 1 ≤ month) (hle : month ≤ 12) :
    daysBeforeMonth year (month + 1) = daysBeforeMonth year month + monthLength year month := by
  obtain ⟨position, hposition, rfl, hlength⟩ := exists_position year hpos hle
  rw [daysBeforeMonth_eq_sum, daysBeforeMonth_eq_sum, hlength, Nat.add_sub_cancel,
    Nat.add_sub_cancel, List.sum_take_succ _ _ hposition]

theorem daysBeforeMonth_end (year : Nat) : daysBeforeMonth year 13 = yearLength year := by
  rw [daysBeforeMonth_eq_sum, ← sum_monthLengths]
  rfl

theorem inMonths_add {lengths : List Nat} {month position day : Nat}
    (hposition : position < lengths.length) (hday : day < lengths[position]) :
    inMonths month lengths ((lengths.take position).sum + day) = (month + position, day + 1) := by
  induction lengths generalizing month position with
  | nil => exact absurd hposition (Nat.not_lt_zero position)
  | cons length rest ih =>
      cases position with
      | zero =>
          rw [List.getElem_cons_zero] at hday
          rw [List.take_zero, List.sum_nil, Nat.zero_add, inMonths, if_pos hday]
          rfl
      | succ position =>
          have hrest : inMonths (month + 1) rest ((rest.take position).sum + day) =
              (month + 1 + position, day + 1) := ih (Nat.lt_of_succ_lt_succ hposition) hday
          rw [List.take_succ_cons, List.sum_cons, inMonths, if_neg (by omega), Nat.add_assoc length,
            Nat.add_sub_cancel_left, hrest, Nat.add_right_comm, Nat.add_assoc]

theorem exists_of_lt_sum {lengths : List Nat} {day : Nat} (hday : day < lengths.sum) :
    ∃ (position : Nat) (hposition : position < lengths.length) (rest : Nat),
      rest < lengths[position] ∧ day = (lengths.take position).sum + rest := by
  induction lengths generalizing day with
  | nil => exact absurd hday (Nat.not_lt_zero day)
  | cons length others ih =>
      rw [List.sum_cons] at hday
      by_cases hfirst : day < length
      · exact ⟨0, Nat.succ_pos _, day, hfirst, (Nat.zero_add day).symm⟩
      · have hothers : day - length < others.sum := by omega
        obtain ⟨position, hposition, rest, hrest, heq⟩ := ih hothers
        refine ⟨position + 1, Nat.succ_lt_succ hposition, rest, hrest, ?_⟩
        rw [List.take_succ_cons, List.sum_cons]
        omega

/-! ## Dates and their numbers -/

namespace OnCalendar

variable {date : Date}

theorem dayNumber_pos (hdate : date.OnCalendar) : 1 ≤ date.dayNumber :=
  hdate.day_pos.trans (Nat.le_add_left _ _)

/-- A date lies within its year. -/
theorem dayNumber_le (hdate : date.OnCalendar) :
    date.dayNumber ≤ daysBeforeYear (date.year + 1) := by
  have hmonth := daysBeforeMonth_succ date.year hdate.month_pos hdate.month_le
  have hyear : daysBeforeMonth date.year (date.month + 1) ≤ yearLength date.year := by
    rw [daysBeforeMonth_eq_sum, ← sum_monthLengths,
      ← List.sum_take_add_sum_drop (monthLengths date.year) (date.month + 1 - 1)]
    exact Nat.le_add_right _ _
  have hday := hdate.day_le
  rw [daysBeforeYear_succ hdate.year_pos, dayNumber]
  omega

theorem ofDayNumber_dayNumber (hdate : date.OnCalendar) : ofDayNumber date.dayNumber = date := by
  have hpast : date.dayNumber - 1 = daysBeforeYear date.year +
      (daysBeforeMonth date.year date.month + (date.day - 1)) := by
    have := hdate.day_pos
    unfold dayNumber
    omega
  have hrest : daysBeforeMonth date.year date.month + (date.day - 1) < yearLength date.year := by
    have hle := hdate.dayNumber_le
    have := hdate.day_pos
    rw [daysBeforeYear_succ hdate.year_pos, dayNumber] at hle
    omega
  have hmonth : inMonths 1 (monthLengths date.year)
      (daysBeforeMonth date.year date.month + (date.day - 1)) = (date.month, date.day) := by
    have hday : date.day - 1 < monthLength date.year date.month := by
      have := hdate.day_pos
      have := hdate.day_le
      omega
    obtain ⟨position, hposition, hmonth, hlength⟩ :=
      exists_position date.year hdate.month_pos hdate.month_le
    rw [hlength] at hday
    rw [daysBeforeMonth_eq_sum, hmonth, Nat.add_sub_cancel, inMonths_add hposition hday,
      Nat.add_comm 1, Nat.sub_add_cancel hdate.day_pos]
  rw [ofDayNumber, hpast, inYears_add hdate.year_pos hrest]
  dsimp only
  rw [hmonth]

/-- The day after a date is a date with the next number. -/
theorem next (hdate : date.OnCalendar) :
    date.next.OnCalendar ∧ date.next.dayNumber = date.dayNumber + 1 := by
  have hmonth := daysBeforeMonth_succ date.year hdate.month_pos hdate.month_le
  have hday := hdate.day_le
  unfold Date.next
  split_ifs with hwithin hlast
  · exact ⟨⟨hdate.year_pos, hdate.month_pos, hdate.month_le, Nat.le_add_left 1 _, hwithin⟩, rfl⟩
  · refine ⟨onCalendar_first hdate.year_pos (Nat.le_add_left 1 _) hlast, ?_⟩
    simp only [dayNumber]
    omega
  · -- after the last day of December all months of the year are over
    refine ⟨onCalendar_first (Nat.le_add_left 1 _) le_rfl (by decide), ?_⟩
    have htwelve : date.month = 12 := by
      have := hdate.month_le
      omega
    have hfirst : daysBeforeMonth (date.year + 1) 1 = 0 := rfl
    rw [htwelve, daysBeforeMonth_end] at hmonth
    rw [htwelve] at hwithin hday
    simp only [dayNumber, daysBeforeYear_succ hdate.year_pos, htwelve]
    omega

end OnCalendar

theorem onCalendar_ofDayNumber {number : Nat} (hnumber : 1 ≤ number) :
    (ofDayNumber number).OnCalendar ∧ (ofDayNumber number).dayNumber = number := by
  obtain ⟨year, ofYear, hinYears, hyear, hofYear, heq⟩ := exists_inYears_eq (number - 1)
  rw [← sum_monthLengths] at hofYear
  obtain ⟨position, hposition, day, hday, rfl⟩ := exists_of_lt_sum hofYear
  have hdate : ofDayNumber number = ⟨year, position + 1, day + 1⟩ := by
    rw [ofDayNumber, hinYears]
    dsimp only
    rw [inMonths_add hposition hday, Nat.add_comm 1]
  obtain ⟨other, hother, hsame, hlength⟩ :=
    exists_position year (Nat.le_add_left 1 position) hposition
  obtain rfl : position = other := Nat.succ.inj hsame
  rw [hdate]
  refine ⟨⟨hyear, Nat.le_add_left 1 _, hposition, Nat.le_add_left 1 _, hlength ▸ hday⟩, ?_⟩
  rw [dayNumber]
  dsimp only
  rw [daysBeforeMonth_eq_sum, Nat.add_sub_cancel]
  omega

/-- Dates of the years up to 9999 are those with a number up to the last one. -/
theorem valid_ofDayNumber_iff {number : Nat} (hnumber : 1 ≤ number) :
    (ofDayNumber number).Valid ↔ number ≤ maxDayNumber := by
  obtain ⟨hdate, hnumberEq⟩ := onCalendar_ofDayNumber hnumber
  rw [valid_iff, and_iff_right hdate]
  constructor
  · intro hyear
    have hmono := daysBeforeYear_mono (Nat.le_add_left 1 _) (Nat.add_le_add_right hyear 1)
    exact hnumberEq ▸ hdate.dayNumber_le.trans hmono
  · intro hle
    by_contra hlate
    have hmono : daysBeforeYear (maxYear + 1) ≤ daysBeforeYear (ofDayNumber number).year :=
      daysBeforeYear_mono (Nat.le_add_left 1 _) (by omega)
    have hbefore : daysBeforeYear (ofDayNumber number).year < number := by
      have := hdate.day_pos
      rw [dayNumber] at hnumberEq
      omega
    exact absurd hle (Nat.not_le_of_lt (lt_of_le_of_lt hmono hbefore))

end HttpScript.Date
