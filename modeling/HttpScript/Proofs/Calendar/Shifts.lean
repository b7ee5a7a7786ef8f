import HttpScript.Proofs.Calendar.Instants

/-!
# Shifts by units of fixed length

Weeks, days, hours, minutes and seconds are numbers of seconds, and a shift by a number of them goes
that many seconds along the time line.  So shifts add up like the numbers, and each is undone by the
opposite one: both are additions of seconds, and there is one date-time for each second.

What a shift reads of a date-time besides its seconds is its fraction of a second and its offset,
which it keeps.  That is why a shift that starts from a shifted date-time is a shift of the first
one, also where it fails.
-/

namespace HttpScript.DateTime

theorem atLocalSeconds_congr {first second : DateTime}
    (hmicrosecond : first.microsecond = second.microsecond) (hoffset : first.offset = second.offset)
    (seconds : Int) : first.atLocalSeconds seconds = second.atLocalSeconds seconds := by
  unfold atLocalSeconds
  rw [hmicrosecond, hoffset]

theorem universalSeconds_eq_add_iff {moment moved : DateTime}
    (hoffset : moved.offset = moment.offset) {seconds : Int} :
    moved.universalSeconds = moment.universalSeconds + seconds ↔
      moved.localSeconds = moment.localSeconds + seconds := by
  unfold universalSeconds
  rw [hoffset]
  omega

section FixedLength

variable {unit : ShiftUnit} {seconds : Int}

theorem shift_eq_atLocalSeconds (hunit : unit.seconds? = some seconds) (moment : DateTime)
    (count : Int) :
    moment.shift count unit = moment.atLocalSeconds (moment.localSeconds + count * seconds) := by
  rw [shift, hunit, Int.mul_comm count]
  rfl

theorem shift_eq_ok_iff (hunit : unit.seconds? = some seconds) {moment moved : DateTime}
    (hmoment : moment.Valid) {count : Int} :
    moment.shift count unit = .ok moved ↔
      moved.Valid ∧ moved.universalSeconds = moment.universalSeconds + count * seconds ∧
        moved.microsecond = moment.microsecond ∧ moved.offset = moment.offset := by
  rw [shift_eq_atLocalSeconds hunit, atLocalSeconds_eq_ok_iff hmoment.microsecond_lt]
  refine and_congr_right fun _ => ⟨?_, ?_⟩
  · rintro ⟨hlocal, hmicrosecond, hoffset⟩
    exact ⟨(universalSeconds_eq_add_iff hoffset).mpr hlocal, hmicrosecond, hoffset⟩
  · rintro ⟨huniversal, hmicrosecond, hoffset⟩
    exact ⟨(universalSeconds_eq_add_iff hoffset).mp huniversal, hmicrosecond, hoffset⟩

theorem shift_shift (hunit : unit.seconds? = some seconds) {moment moved : DateTime}
    (hmoment : moment.Valid) {first : Int} (hmoved : moment.shift first unit = .ok moved)
    (second : Int) : moved.shift second unit = moment.shift (first + second) unit := by
  obtain ⟨-, huniversal, hmicrosecond, hoffset⟩ := (shift_eq_ok_iff hunit hmoment).mp hmoved
  have hlocal := (universalSeconds_eq_add_iff hoffset).mp huniversal
  rw [shift_eq_atLocalSeconds hunit, shift_eq_atLocalSeconds hunit,
    atLocalSeconds_congr hmicrosecond hoffset, hlocal, Int.add_mul, Int.add_assoc]

theorem shift_zero (hunit : unit.seconds? = some seconds) {moment : DateTime}
    (hmoment : moment.Valid) : moment.shift 0 unit = .ok moment := by
  refine (shift_eq_ok_iff hunit hmoment).mpr ⟨hmoment, ?_, rfl, rfl⟩
  rw [Int.zero_mul, Int.add_zero]

/-- A shift by weeks, days, hours, minutes or seconds leads to the date-time that lies its number of
units away on the time line, with the same fraction of a second and the same offset: as far as a
clock comes in so many seconds, forward or, for a negative number, backward.  It fails just if that
is not within the years one to 9999.  Shifts add up, the shift by nothing changes nothing, and every
shift is undone by the opposite one. -/
theorem shift_exact (hunit : unit.seconds? = some seconds) {moment : DateTime}
    (hmoment : moment.Valid) (a b : Int) :
    (∀ moved, moment.shift a unit = .ok moved ↔
        moved.Valid ∧ moved.universalSeconds = moment.universalSeconds + a * seconds ∧
          moved.microsecond = moment.microsecond ∧ moved.offset = moment.offset) ∧
      ((∃ moved, moment.shift a unit = .ok moved) ↔
        first.localSeconds ≤ moment.localSeconds + a * seconds ∧
          moment.localSeconds + a * seconds ≤ last.localSeconds) ∧
      moment.shift 0 unit = .ok moment ∧
      ∀ moved, moment.shift a unit = .ok moved →
        (∀ count : Nat, (a * seconds = count → moved = tick^[count] moment) ∧
          (a * seconds = -count → moment = tick^[count] moved)) ∧
        moved.shift b unit = moment.shift (a + b) unit ∧
        moved.shift (-a) unit = .ok moment := by
  refine ⟨fun moved => shift_eq_ok_iff hunit hmoment, ?_, shift_zero hunit hmoment,
    fun moved hmoved => ⟨fun count => ?_, shift_shift hunit hmoment hmoved b, ?_⟩⟩
  · rw [shift_eq_atLocalSeconds hunit]
    exact exists_atLocalSeconds_eq_ok_iff moment _
  · obtain ⟨hvalid, huniversal, hmicrosecond, hoffset⟩ := (shift_eq_ok_iff hunit hmoment).mp hmoved
    have hlocal := (universalSeconds_eq_add_iff hoffset).mp huniversal
    constructor
    · intro hforward
      exact hmoment.eq_iterate_tick hvalid.toOnClock (hforward ▸ hlocal) hmicrosecond hoffset
    · intro hbackward
      have hreturn : moment.localSeconds = moved.localSeconds + count := by omega
      exact hvalid.eq_iterate_tick hmoment.toOnClock hreturn hmicrosecond.symm hoffset.symm
  · rw [shift_shift hunit hmoment hmoved, Int.add_right_neg]
    exact shift_zero hunit hmoment

/-- A day and a minute forward from half a minute before midnight, over the leap day of 2024, and
back again. -/
theorem shift_exact_leap :
    let moment : DateTime := ⟨⟨2024, 2, 28⟩, 23, 59, 30, 500000, some 19800⟩
    let moved : DateTime := ⟨⟨2024, 3, 1⟩, 0, 0, 30, 500000, some 19800⟩
    ShiftUnit.minute.seconds? = some 60 ∧ moment.Valid ∧
      moment.shift 1441 .minute = .ok moved ∧
      moved = tick^[86460] moment ∧ moved.shift (-1441) .minute = .ok moment := by
  intro moment moved
  have hmoment : moment.Valid := ⟨⟨⟨by decide, by decide, by decide, by decide, by decide⟩,
    by decide, by decide, by decide, by decide⟩, by decide⟩
  have hmoved : moment.shift 1441 .minute = .ok moved := by decide
  obtain ⟨hticks, -, hback⟩ := (shift_exact rfl hmoment 1441 0).2.2.2 moved hmoved
  exact ⟨rfl, hmoment, hmoved, (hticks 86460).1 rfl, hback⟩

end FixedLength

end HttpScript.DateTime
