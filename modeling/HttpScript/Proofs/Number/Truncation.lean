import HttpScript.Number.Double
import Mathlib.Algebra.Order.Ring.Nat
import Mathlib.Tactic.Linarith
import Mathlib.Tactic.Ring

/-!
# Whole parts of rounded fractions

A fraction becomes a floating point number by rounding, and its whole part is taken only then.  The
rounding can carry the fraction up to the next whole number, but no further and never down: whole
numbers below `2 ^ 53` are floating point numbers themselves.  It does so if what is missing to the
next whole number is at most half of the distance of floating point numbers there, which doubles
with each power of two (`steps`).
-/

namespace HttpScript.Double

variable {numerator denominator : Nat}

/-- The number of steps in which floating point numbers go from a whole number to the next. -/
def steps (whole : Nat) : Nat :=
  2 ^ (52 - Nat.log2 whole)

/-! ## Rounding to the next whole number -/

theorem div_le_roundedQuotient (numerator denominator : Nat) :
    numerator / denominator ≤ roundedQuotient numerator denominator := by
  unfold roundedQuotient
  dsimp only
  split_ifs <;> omega

theorem roundedQuotient_le_succ (numerator denominator : Nat) :
    roundedQuotient numerator denominator ≤ numerator / denominator + 1 := by
  unfold roundedQuotient
  dsimp only
  split_ifs <;> omega

/-- A quotient is rounded to an even number above it if it is no more than a half below. -/
theorem roundedQuotient_eq_iff {bound : Nat} (heven : bound % 2 = 0)
    (hlt : numerator < bound * denominator) :
    roundedQuotient numerator denominator = bound ↔
      2 * (bound * denominator - numerator) ≤ denominator := by
  have hpos : 0 < denominator := Nat.pos_of_mul_pos_left (Nat.zero_lt_of_lt hlt)
  have hquotient : numerator / denominator < bound := (Nat.div_lt_iff_lt_mul hpos).mpr hlt
  have hrest : numerator % denominator < denominator := Nat.mod_lt numerator hpos
  have hsplit : numerator / denominator * denominator + numerator % denominator = numerator :=
    Nat.div_add_mod' numerator denominator
  -- what is missing to the bound: the rest of one denominator, and denominators as a whole
  obtain ⟨more, hmore⟩ : ∃ more, bound = numerator / denominator + 1 + more :=
    ⟨_, (Nat.add_sub_of_le hquotient).symm⟩
  have hbound : bound * denominator =
      numerator / denominator * denominator + denominator + more * denominator := by
    rw [hmore]
    ring
  have hwhole : more = 0 ∧ more * denominator = 0 ∨
      0 < more ∧ denominator ≤ more * denominator := by
    rcases more.eq_zero_or_pos with rfl | hmore
    · exact .inl ⟨rfl, Nat.zero_mul denominator⟩
    · exact .inr ⟨hmore, Nat.le_mul_of_pos_left denominator hmore⟩
  unfold roundedQuotient
  simp only [beq_iff_eq]
  generalize numerator / denominator = quotient at *
  generalize numerator % denominator = rest at *
  split_ifs <;> omega

/-- With a number of steps to each whole number, the whole part of what is rounded to a step is the
next whole number if no more than half a step is missing to that one. -/
theorem roundedQuotient_div {factor : Nat} (heven : factor % 2 = 0) (hfactor : 0 < factor)
    (hdenominator : 0 < denominator) :
    roundedQuotient (numerator * factor) denominator / factor = numerator / denominator +
      if 2 * factor * (denominator - numerator % denominator) ≤ denominator then 1 else 0 := by
  have hrest : numerator % denominator < denominator := Nat.mod_lt numerator hdenominator
  have hsplit : numerator / denominator * denominator + numerator % denominator = numerator :=
    Nat.div_add_mod' numerator denominator
  generalize numerator / denominator = whole at *
  generalize numerator % denominator = rest at *
  obtain ⟨missing, rfl⟩ : ∃ missing, denominator = rest + missing :=
    ⟨_, (Nat.add_sub_of_le hrest.le).symm⟩
  have hbound :
      (whole + 1) * factor * (rest + missing) = numerator * factor + factor * missing := by
    rw [← hsplit]
    ring
  have hlt : numerator * factor < (whole + 1) * factor * (rest + missing) := by
    rw [hbound]
    exact Nat.lt_add_of_pos_right (Nat.mul_pos hfactor (by omega))
  have hnext : roundedQuotient (numerator * factor) (rest + missing) = (whole + 1) * factor ↔
      2 * factor * missing ≤ rest + missing := by
    rw [roundedQuotient_eq_iff (by rw [Nat.mul_mod, heven, Nat.mul_zero, Nat.zero_mod]) hlt, hbound,
      Nat.add_sub_cancel_left, Nat.mul_assoc]
  have hlow : whole * factor ≤ roundedQuotient (numerator * factor) (rest + missing) := by
    refine le_trans ?_ (div_le_roundedQuotient _ _)
    rw [Nat.le_div_iff_mul_le hdenominator, ← hsplit]
    nlinarith
  have hhigh : roundedQuotient (numerator * factor) (rest + missing) ≤ (whole + 1) * factor :=
    (roundedQuotient_le_succ _ _).trans ((Nat.div_lt_iff_lt_mul hdenominator).mpr hlt)
  rw [Nat.add_sub_cancel_left]
  split_ifs with hclose
  · rw [hnext.mpr hclose, Nat.mul_div_cancel _ hfactor]
  · have hbelow := lt_of_le_of_ne hhigh (mt hnext.mp hclose)
    rw [Nat.add_zero]
    exact Nat.div_eq_of_lt_le hlow hbelow

/-! ## The places of a floating point number -/

theorem scaledFraction_neg (numerator denominator places : Nat) :
    scaledFraction numerator denominator (-(places : Int)) =
      (numerator * 2 ^ places, denominator) := by
  cases places with
  | zero => simp [scaledFraction]
  | succ places => rfl

/-- A fraction has 53 bits in front of so many binary places. -/
structure HasPlaces (numerator denominator places : Nat) : Prop where
  low : 2 ^ 52 * denominator ≤ numerator * 2 ^ places
  high : numerator * 2 ^ places < 2 ^ 53 * denominator

theorem exists_exponentOf_eq (hnumerator : 0 < numerator) (hdenominator : 0 < denominator)
    (hsmall : denominator ≤ 2 ^ 52) (hlt : numerator < 2 ^ 52 * denominator) :
    ∃ places : Nat, exponentOf numerator denominator = -(places : Int) ∧
      HasPlaces numerator denominator places := by
  have hnumLow : 2 ^ numerator.log2 ≤ numerator := Nat.log2_self_le hnumerator.ne'
  have hnumHigh : numerator < 2 ^ (numerator.log2 + 1) := Nat.lt_log2_self
  have hdenLow : 2 ^ denominator.log2 ≤ denominator := Nat.log2_self_le hdenominator.ne'
  have hdenHigh : denominator < 2 ^ (denominator.log2 + 1) := Nat.lt_log2_self
  have hdenLog : denominator.log2 ≤ 52 :=
    (Nat.pow_le_pow_iff_right Nat.one_lt_two).mp (hdenLow.trans hsmall)
  have hlog : numerator.log2 < 52 + denominator.log2 + 1 := by
    rw [← Nat.pow_lt_pow_iff_right Nat.one_lt_two]
    calc 2 ^ numerator.log2 ≤ numerator := hnumLow
      _ < 2 ^ 52 * denominator := hlt
      _ ≤ 2 ^ 52 * 2 ^ (denominator.log2 + 1) := Nat.mul_le_mul_left _ hdenHigh.le
      _ = 2 ^ (52 + denominator.log2 + 1) := by ring
  -- the first guess goes by the bits of both numbers, and can be one place short
  obtain ⟨guess, hguess⟩ : ∃ guess, 52 + denominator.log2 = guess + numerator.log2 :=
    ⟨_, (Nat.sub_add_cancel (Nat.le_of_lt_succ hlog)).symm⟩
  have hexponent : exponentOf numerator denominator =
      max (if numerator * 2 ^ guess / denominator < 2 ^ 52 then -(guess : Int) - 1
        else -(guess : Int)) (-1074) := by
    have hint : (numerator.log2 : Int) - denominator.log2 - 52 = -(guess : Int) := by omega
    rw [exponentOf, hint, scaledFraction_neg]
    rfl
  have hlow : 2 ^ 51 * denominator ≤ numerator * 2 ^ guess := by
    calc 2 ^ 51 * denominator ≤ 2 ^ 51 * 2 ^ (denominator.log2 + 1) :=
          Nat.mul_le_mul_left _ hdenHigh.le
      _ = 2 ^ (52 + denominator.log2) := by ring
      _ = 2 ^ numerator.log2 * 2 ^ guess := by rw [hguess, Nat.add_comm, Nat.pow_add]
      _ ≤ numerator * 2 ^ guess := Nat.mul_le_mul_right _ hnumLow
  have hhigh : numerator * 2 ^ guess < 2 ^ 53 * denominator := by
    calc numerator * 2 ^ guess < 2 ^ (numerator.log2 + 1) * 2 ^ guess :=
          Nat.mul_lt_mul_of_pos_right hnumHigh (Nat.two_pow_pos guess)
      _ = 2 * 2 ^ (guess + numerator.log2) := by ring
      _ = 2 ^ 53 * 2 ^ denominator.log2 := by rw [← hguess]; ring
      _ ≤ 2 ^ 53 * denominator := Nat.mul_le_mul_left _ hdenLow
  rw [hexponent]
  split_ifs with hbits
  · rw [Nat.div_lt_iff_lt_mul hdenominator] at hbits
    have hdouble : numerator * 2 ^ (guess + 1) = 2 * (numerator * 2 ^ guess) := by ring
    exact ⟨guess + 1, by omega, by omega, by omega⟩
  · rw [Nat.div_lt_iff_lt_mul hdenominator, Nat.not_lt] at hbits
    exact ⟨guess, by omega, hbits, hhigh⟩

/-- The places are those that the whole part leaves. -/
theorem HasPlaces.eq_sub_log2 {places : Nat} (hplaces : HasPlaces numerator denominator places)
    (hdenominator : 0 < denominator) (hwhole : 0 < numerator / denominator) :
    places + (numerator / denominator).log2 = 52 := by
  have hlow : 2 ^ (numerator / denominator).log2 * denominator ≤ numerator := by
    rw [← Nat.le_div_iff_mul_le hdenominator]
    exact Nat.log2_self_le hwhole.ne'
  have hhigh : numerator < 2 ^ ((numerator / denominator).log2 + 1) * denominator := by
    rw [← Nat.div_lt_iff_lt_mul hdenominator]
    exact Nat.lt_log2_self
  have hbelow : places + (numerator / denominator).log2 < 53 := by
    rw [← Nat.pow_lt_pow_iff_right Nat.one_lt_two, ← Nat.mul_lt_mul_right hdenominator]
    calc 2 ^ (places + (numerator / denominator).log2) * denominator
        = 2 ^ (numerator / denominator).log2 * denominator * 2 ^ places := by ring
      _ ≤ numerator * 2 ^ places := Nat.mul_le_mul_right _ hlow
      _ < 2 ^ 53 * denominator := hplaces.high
  have habove : 52 < places + (numerator / denominator).log2 + 1 := by
    rw [← Nat.pow_lt_pow_iff_right Nat.one_lt_two, ← Nat.mul_lt_mul_right hdenominator]
    calc 2 ^ 52 * denominator ≤ numerator * 2 ^ places := hplaces.low
      _ < 2 ^ ((numerator / denominator).log2 + 1) * denominator * 2 ^ places :=
          Nat.mul_lt_mul_of_pos_right hhigh (Nat.two_pow_pos places)
      _ = 2 ^ (places + (numerator / denominator).log2 + 1) * denominator := by ring
  omega

/-- Half a step is reached by the places of the fraction just if it is by the steps that follow its
whole part. -/
theorem HasPlaces.half_step_iff {places : Nat} (hplaces : HasPlaces numerator denominator places)
    (hdenominator : 0 < denominator) (hsmall : denominator ≤ 2 ^ 52) :
    2 * 2 ^ places * (denominator - numerator % denominator) ≤ denominator ↔
      2 * steps (numerator / denominator) * (denominator - numerator % denominator) ≤
        denominator := by
  rcases (numerator / denominator).eq_zero_or_pos with hzero | hpos
  · -- less than one whole: a denominator below `2 ^ 53` is not enough to come so close to one
    have hfar {factor : Nat} (hfactor : 2 ^ 52 ≤ factor) :
        ¬ 2 * factor * (denominator - numerator % denominator) ≤ denominator := by
      have hmissing : 1 ≤ denominator - numerator % denominator :=
        Nat.sub_pos_of_lt (Nat.mod_lt numerator hdenominator)
      have hmul := Nat.mul_le_mul (Nat.mul_le_mul_left 2 hfactor) hmissing
      omega
    have hlt : numerator < denominator := Nat.lt_of_div_eq_zero hdenominator hzero
    have hlong : 52 < places := by
      rw [← Nat.pow_lt_pow_iff_right Nat.one_lt_two, ← Nat.mul_lt_mul_left hdenominator]
      calc denominator * 2 ^ 52 = 2 ^ 52 * denominator := Nat.mul_comm _ _
        _ ≤ numerator * 2 ^ places := hplaces.low
        _ < denominator * 2 ^ places := Nat.mul_lt_mul_of_pos_right hlt (Nat.two_pow_pos places)
    refine iff_of_false (hfar (Nat.pow_le_pow_right Nat.two_pos hlong.le)) ?_
    rw [hzero]
    exact hfar le_rfl
  · rw [steps, ← hplaces.eq_sub_log2 hdenominator hpos, Nat.add_sub_cancel]

/-! ## Cutting off the fraction -/

/-- A whole number of a sign and a size. -/
def signed (negative : Bool) (size : Nat) : Int :=
  if negative then -(size : Int) else size

theorem truncate?_finite (negative : Bool) (significand places : Nat) :
    (finite negative significand (-(places : Int))).truncate? =
      some (signed negative (significand / 2 ^ places)) := by
  have hfraction : (finite negative significand (-(places : Int))).fraction? =
      some (signed negative significand, 2 ^ places) := by
    cases places with
    | zero => simp [fraction?, signed]
    | succ places => rfl
  rw [truncate?, hfraction]
  cases negative with
  | false => exact congrArg some (Int.ofNat_tdiv _ _)
  | true => exact congrArg some ((Int.neg_tdiv _ _).trans (congrArg Neg.neg (Int.ofNat_tdiv _ _)))

theorem ofFraction_eq {places : Nat} (hnumerator : 0 < numerator)
    (hexponent : exponentOf numerator denominator = -((places + 1 : Nat) : Int))
    (negative : Bool) :
    ofFraction negative numerator denominator =
      if roundedQuotient (numerator * 2 ^ (places + 1)) denominator = 2 ^ 53 then
        finite negative (2 ^ 52) (-(places : Int))
      else finite negative (roundedQuotient (numerator * 2 ^ (places + 1)) denominator)
        (-((places + 1 : Nat) : Int)) := by
  have hsmall {places : Nat} : ¬ -(places : Int) > maxExponent := by
    unfold maxExponent
    omega
  have hcarried : -((places + 1 : Nat) : Int) + 1 = -(places : Int) := by omega
  unfold ofFraction
  rw [if_neg hnumerator.ne', hexponent]
  dsimp only
  rw [scaledFraction_neg, Nat.pow_eq, Nat.pow_eq]
  dsimp only
  by_cases hcarry : roundedQuotient (numerator * 2 ^ (places + 1)) denominator = 2 ^ 53
  · rw [if_pos hcarry, if_pos hcarry, hcarried]
    exact if_neg hsmall
  · rw [if_neg hcarry, if_neg hcarry]
    exact if_neg hsmall

/-- The whole part of a fraction that was rounded to a floating point number is the whole part of
the fraction itself, or the next whole number if no more than half a step is missing to it. -/
theorem truncate?_ofFraction (hdenominator : 0 < denominator) (hsmall : denominator ≤ 2 ^ 52)
    (hlt : numerator < 2 ^ 52 * denominator) (negative : Bool) :
    (ofFraction negative numerator denominator).truncate? =
      some (signed negative (numerator / denominator +
        if 2 * steps (numerator / denominator) * (denominator - numerator % denominator) ≤
          denominator then 1 else 0)) := by
  rcases numerator.eq_zero_or_pos with rfl | hnumerator
  · have hfar : ¬ 2 * 2 ^ 52 * denominator ≤ denominator := by omega
    have hzero := truncate?_finite negative 0 1074
    rw [Nat.zero_div] at hzero
    rw [Nat.zero_div, Nat.zero_mod, Nat.sub_zero, steps, Nat.log2_zero, Nat.sub_zero, if_neg hfar]
    exact hzero
  · obtain ⟨places, hexponent, hplaces⟩ :=
      exists_exponentOf_eq hnumerator hdenominator hsmall hlt
    have hpos : 0 < places := by
      refine Nat.pos_of_ne_zero fun hzero => ?_
      have hlow := hplaces.low
      rw [hzero, Nat.pow_zero, Nat.mul_one] at hlow
      exact absurd hlt (Nat.not_lt_of_le hlow)
    obtain ⟨places, rfl⟩ : ∃ others, places = others + 1 := ⟨_, (Nat.sub_add_cancel hpos).symm⟩
    have heven : 2 ^ (places + 1) % 2 = 0 := by rw [Nat.pow_succ, Nat.mul_mod_left]
    rw [← if_congr (hplaces.half_step_iff hdenominator hsmall) rfl rfl,
      ← roundedQuotient_div heven (Nat.two_pow_pos _) hdenominator,
      ofFraction_eq hnumerator hexponent]
    split_ifs with hcarry
    · have hsame : 2 ^ 53 / 2 ^ (places + 1) = 2 ^ 52 / 2 ^ places := by
        rw [@Nat.pow_succ' 2 places]
        exact Nat.mul_div_mul_left (2 ^ 52) (2 ^ places) Nat.two_pos
      rw [truncate?_finite, hcarry, hsame]
    · exact truncate?_finite negative _ _

end HttpScript.Double
