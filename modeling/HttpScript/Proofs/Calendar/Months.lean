import HttpScript.Proofs.Calendar.Instants

/-!
# Shifts by months and years

Months are counted through from year to year, so a shift by months is an addition to the number of
the month, and the year and the month are what that number is divided into.  Reckoning with years
and months apart comes to the same: a number of months is taken apart into years and months of its
own sign, and what goes over either end of the year is carried once (`carryMonths`).  A shift is
reckoned in this way, and `addMonths_eq` turns it into a division.

The day is kept as far as the new month has it.  Since every month has 28 days, up to the 28th it is
kept in any case, and then shifts add up and can be undone; on later days a short month on the way
cuts the day down for good.
-/

namespace HttpScript

/-- The number of a month, counted through all years. -/
def Date.monthNumber (date : Date) : Int :=
  12 * date.year + date.month - 1

theorem Date.OnCalendar.monthNumber_div {date : Date} (hdate : date.OnCalendar) :
    date.monthNumber / 12 = date.year := by
  have hpos := hdate.month_pos
  have hle := hdate.month_le
  unfold Date.monthNumber
  omega

theorem Date.OnCalendar.monthNumber_mod {date : Date} (hdate : date.OnCalendar) :
    date.monthNumber % 12 + 1 = date.month := by
  have hpos := hdate.month_pos
  have hle := hdate.month_le
  unfold Date.monthNumber
  omega

/-- What carrying comes to: the year and the month that the number of the month is divided into. -/
theorem carryMonths_eq {year month : Int} (hpos : 1 ≤ month) (hle : month ≤ 12) (months : Int) :
    carryMonths year month months =
      ((12 * year + month - 1 + months) / 12, (12 * year + month - 1 + months) % 12 + 1) := by
  have hsplit : months = 12 * months.tdiv 12 + months.tmod 12 :=
    (Int.mul_tdiv_add_tmod months 12).symm
  have hlow : -12 < months.tmod 12 := Int.lt_tmod_of_pos months (by decide)
  have hhigh : months.tmod 12 < 12 := Int.tmod_lt_of_pos months (by decide)
  unfold carryMonths
  generalize months.tdiv 12 = years at *
  generalize months.tmod 12 = rest at *
  subst hsplit
  dsimp only
  split_ifs
  · exact Prod.ext (by dsimp only; omega) (by dsimp only; omega)
  · exact Prod.ext (by dsimp only; omega) (by dsimp only; omega)
  · exact Prod.ext (by dsimp only; omega) (by dsimp only; omega)

namespace DateTime

variable {moment moved : DateTime} {months : Int}

/-- The year that a number of months leads to. -/
def yearAfter (moment : DateTime) (months : Int) : Int :=
  (moment.date.monthNumber + months) / 12

theorem Valid.inMonth (hmoment : moment.Valid) {year month : Nat} (hyear : 1 ≤ year)
    (hlast : year ≤ Date.maxYear) (hpos : 1 ≤ month) (hle : month ≤ 12) :
    (moment.inMonth year month).Valid := by
  obtain ⟨⟨hdate, hhour, hminute, hsecond, hmicrosecond⟩, -⟩ := hmoment
  have hlength : 28 ≤ Date.monthLength year month := Date.le_monthLength year hpos hle
  have hday := hdate.day_pos
  refine ⟨⟨⟨hyear, hpos, hle, ?_, Nat.min_le_right _ _⟩, hhour, hminute, hsecond, hmicrosecond⟩,
    hlast⟩
  exact Nat.le_min.mpr ⟨hday, Nat.le_trans (by decide) hlength⟩

theorem monthNumber_inMonth (moment : DateTime) {number : Int} (hyear : 1 ≤ number / 12) :
    (moment.inMonth (number / 12).toNat (number % 12 + 1).toNat).date.monthNumber = number := by
  unfold Date.monthNumber inMonth
  dsimp only
  omega

/-! ## What becomes of a move to a month -/

section ToMonth

variable {year month : Int}

theorem maxYear_lt_yearBound : (Date.maxYear : Int) < yearBound := by decide

theorem toMonth_eq_ok (hlow : 1 ≤ year) (hhigh : year ≤ Date.maxYear) :
    moment.toMonth year month = .ok (moment.inMonth year.toNat month.toNat) := by
  have hbound := maxYear_lt_yearBound
  rw [toMonth, if_neg (by omega), if_neg (by omega)]

theorem exists_toMonth_eq_ok_iff : (∃ moved, moment.toMonth year month = .ok moved) ↔
    1 ≤ year ∧ year ≤ Date.maxYear := by
  refine ⟨fun ⟨moved, hmoved⟩ => ?_, fun ⟨hlow, hhigh⟩ => ⟨_, toMonth_eq_ok hlow hhigh⟩⟩
  rw [toMonth] at hmoved
  split_ifs at hmoved
  omega

theorem toMonth_eq_yearOutOfRange_iff (hbound : -yearBound ≤ year ∧ year < yearBound) :
    moment.toMonth year month = .error .yearOutOfRange ↔
      ¬ (1 ≤ year ∧ year ≤ Date.maxYear) := by
  rw [toMonth]
  split_ifs
  · omega
  · refine iff_of_true rfl ?_
    omega
  · refine iff_of_false nofun ?_
    omega

end ToMonth

/-! ## What becomes of a shift by months -/

/-- A shift by months moves to the month that the number of the month is divided into. -/
theorem addMonths_eq (hmoment : moment.Valid) (months : Int) :
    moment.addMonths months = moment.toMonth (moment.yearAfter months)
      ((moment.date.monthNumber + months) % 12 + 1) := by
  have hpos := hmoment.date.month_pos
  have hle := hmoment.date.month_le
  rw [addMonths, carryMonths_eq (by omega) (by omega)]
  rfl

theorem addMonths_eq_ok_iff (hmoment : moment.Valid) :
    moment.addMonths months = .ok moved ↔
      moved.Valid ∧ moved.date.monthNumber = moment.date.monthNumber + months ∧
        moved.date.day = min moment.date.day (Date.monthLength moved.date.year moved.date.month) ∧
        moved = { moment with date := moved.date } := by
  rw [addMonths_eq hmoment]
  constructor
  · intro hmoved
    obtain ⟨hlow, hhigh⟩ := exists_toMonth_eq_ok_iff.mp ⟨moved, hmoved⟩
    rw [toMonth_eq_ok hlow hhigh] at hmoved
    obtain rfl := Except.ok.inj hmoved
    exact ⟨hmoment.inMonth (by omega) (by omega) (by omega) (by omega),
      moment.monthNumber_inMonth hlow, rfl, rfl⟩
  · rintro ⟨hmoved, hnumber, hday, hsame⟩
    have hyear : moment.yearAfter months = moved.date.year := by
      rw [yearAfter, ← hnumber, hmoved.date.monthNumber_div]
    have hmonth : (moment.date.monthNumber + months) % 12 + 1 = moved.date.month := by
      rw [← hnumber, hmoved.date.monthNumber_mod]
    have hpos := hmoved.date.year_pos
    have hle := hmoved.year_le
    rw [hyear, hmonth, toMonth_eq_ok (by omega) (by omega), Int.toNat_natCast, Int.toNat_natCast,
      inMonth, ← hday]
    exact congrArg Except.ok hsame.symm

/-! ## Shifts one after the other -/

/-- Months are added up if the day is one that every month has. -/
theorem addMonths_addMonths (hmoment : moment.Valid) (hday : moment.date.day ≤ 28)
    (hmoved : moment.addMonths months = .ok moved) (other : Int) :
    moved.addMonths other = moment.addMonths (months + other) := by
  obtain ⟨hvalid, hnumber, hsameDay, hsame⟩ := (addMonths_eq_ok_iff hmoment).mp hmoved
  have hlength := Date.le_monthLength moved.date.year hvalid.date.month_pos
    hvalid.date.month_le
  rw [Nat.min_eq_left (Nat.le_trans hday hlength)] at hsameDay
  have hyear : moved.yearAfter other = moment.yearAfter (months + other) := by
    rw [yearAfter, yearAfter, hnumber, Int.add_assoc]
  rw [addMonths_eq hvalid, addMonths_eq hmoment, hyear, hnumber, Int.add_assoc, toMonth, toMonth,
    inMonth, inMonth, hsameDay, hsame]

theorem addMonths_zero (hmoment : moment.Valid) : moment.addMonths 0 = .ok moment := by
  refine (addMonths_eq_ok_iff hmoment).mpr ⟨hmoment, (Int.add_zero _).symm, ?_, rfl⟩
  exact (Nat.min_eq_left hmoment.date.day_le).symm

theorem yearAfter_years (hmoment : moment.Valid) (count : Int) :
    moment.yearAfter (12 * count) = moment.date.year + count := by
  have hdiv := hmoment.date.monthNumber_div
  unfold yearAfter
  omega

theorem shift_year (hmoment : moment.Valid) (count : Int) :
    moment.shift count .year = moment.shift (12 * count) .month := by
  have hmonth : (moment.date.monthNumber + 12 * count) % 12 + 1 = moment.date.month := by
    rw [Int.add_mul_emod_self_left, hmoment.date.monthNumber_mod]
  calc moment.shift count .year
    _ = moment.toMonth (moment.date.year + count) moment.date.month := rfl
    _ = moment.addMonths (12 * count) := by
        rw [addMonths_eq hmoment, yearAfter_years hmoment, hmonth]

/-- A shift by months leads to the date-time at the same time of day, with the same offset, whose
month number is larger by the number of months, and whose day is the same or, if the new month is
shorter, its last one; the year and the month are also what reckoning with years and months apart
comes to.  A shift by years is one by twelve times as many months.  Both find the year out of range
just if it is not one of the years one to 9999, unless the number is beyond all bounds.  Up to the
28th of a month, shifts by months add up, and each is undone by the opposite one. -/
theorem shift_months (hmoment : moment.Valid) (n : Int) :
    (∀ moved, moment.shift n .month = .ok moved ↔
        moved.Valid ∧ moved.date.monthNumber = moment.date.monthNumber + n ∧
          moved.date.day =
            min moment.date.day (Date.monthLength moved.date.year moved.date.month) ∧
          moved = { moment with date := moved.date }) ∧
      (∀ moved, moment.shift n .month = .ok moved →
        ((moved.date.year : Int), (moved.date.month : Int)) =
          carryMonths moment.date.year moment.date.month n) ∧
      moment.shift n .year = moment.shift (12 * n) .month ∧
      (-yearBound ≤ moment.yearAfter n ∧ moment.yearAfter n < yearBound →
        (moment.shift n .month = .error .yearOutOfRange ↔
            ¬ (1 ≤ moment.yearAfter n ∧ moment.yearAfter n ≤ Date.maxYear)) ∧
          ((∃ moved, moment.shift n .month = .ok moved) ↔
            1 ≤ moment.yearAfter n ∧ moment.yearAfter n ≤ Date.maxYear)) ∧
      (-yearBound ≤ moment.date.year + n ∧ moment.date.year + n < yearBound →
        (moment.shift n .year = .error .yearOutOfRange ↔
            ¬ (1 ≤ moment.date.year + n ∧ moment.date.year + n ≤ Date.maxYear)) ∧
          ((∃ moved, moment.shift n .year = .ok moved) ↔
            1 ≤ moment.date.year + n ∧ moment.date.year + n ≤ Date.maxYear)) ∧
      (moment.date.day ≤ 28 → ∀ moved, moment.shift n .month = .ok moved →
        (∀ other, moved.shift other .month = moment.shift (n + other) .month) ∧
          moved.shift (-n) .month = .ok moment) := by
  have hshift : moment.shift n .month = moment.toMonth (moment.yearAfter n)
      ((moment.date.monthNumber + n) % 12 + 1) := addMonths_eq hmoment n
  refine ⟨fun moved => addMonths_eq_ok_iff hmoment, fun moved hmoved => ?_, shift_year hmoment n,
    fun hbound => ?_, fun hbound => ⟨toMonth_eq_yearOutOfRange_iff hbound, exists_toMonth_eq_ok_iff⟩,
    fun hday moved hmoved => ⟨addMonths_addMonths hmoment hday hmoved, ?_⟩⟩
  · obtain ⟨hvalid, hnumber, -, -⟩ := (addMonths_eq_ok_iff hmoment).mp hmoved
    have hdiv := hvalid.date.monthNumber_div
    have hmod := hvalid.date.monthNumber_mod
    rw [hnumber] at hdiv hmod
    have hpos := hmoment.date.month_pos
    have hle := hmoment.date.month_le
    rw [carryMonths_eq (by omega) (by omega), ← hdiv, ← hmod]
    rfl
  · rw [hshift]
    exact ⟨toMonth_eq_yearOutOfRange_iff hbound, exists_toMonth_eq_ok_iff⟩
  · have hback : moved.addMonths (-n) = moment.addMonths (n + -n) :=
      addMonths_addMonths hmoment hday hmoved (-n)
    rw [Int.add_right_neg] at hback
    exact hback.trans (addMonths_zero hmoment)

/-- Fourteen months back from a January, over two ends of years, and forward again. -/
theorem shift_months_back :
    let moment : DateTime := ⟨⟨2023, 1, 28⟩, 23, 59, 30, 500000, some 19800⟩
    let moved : DateTime := ⟨⟨2021, 11, 28⟩, 23, 59, 30, 500000, some 19800⟩
    moment.Valid ∧ moment.shift (-14) .month = .ok moved ∧
      ((2021 : Int), (11 : Int)) = carryMonths 2023 1 (-14) ∧
      moved.shift 14 .month = .ok moment ∧
      moment.shift 7977 .year = .error .yearOutOfRange := by
  intro moment moved
  have hmoment : moment.Valid := ⟨⟨⟨by decide, by decide, by decide, by decide, by decide⟩,
    by decide, by decide, by decide, by decide⟩, by decide⟩
  have hmoved : moment.shift (-14) .month = .ok moved := by decide
  obtain ⟨-, hcarry, -, -, -, hback⟩ := shift_months hmoment (-14)
  obtain ⟨-, -, -, -, hyears, -⟩ := shift_months hmoment 7977
  exact ⟨hmoment, hmoved, hcarry moved hmoved, (hback (by decide) moved hmoved).2,
    (hyears (by decide)).1.mpr (by decide)⟩

/-- From the 31st, a February on the way leaves the 29th. -/
example : let moment : DateTime := ⟨⟨2024, 1, 31⟩, 0, 0, 0, 0, none⟩
    (moment.shift 1 .month >>= fun moved => moved.shift 1 .month) =
        .ok ⟨⟨2024, 3, 29⟩, 0, 0, 0, 0, none⟩ ∧
      moment.shift 2 .month = .ok ⟨⟨2024, 3, 31⟩, 0, 0, 0, 0, none⟩ := by decide

end DateTime

end HttpScript
