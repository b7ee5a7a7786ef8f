import HttpScript.Number.Double

/-!
# Shortest decimal text

A floating point number is written with the fewest digits that read back as the same number, and
of those digits with the ones nearest to its value.  Digits are searched for on the decimal grids
of one, two, … seventeen digits: on each grid only the two neighbours of the value can lie in the
interval of reals that round to it.
-/

namespace HttpScript.Double

/-- A decimal number: `digits · 10 ^ exponent`. -/
structure Decimal where
  digits : Nat
  exponent : Int
deriving DecidableEq, Repr

/-- The reals that round to a number, in units of `1 / unit`: the value itself and the two ends,
which belong to the interval when `closed` holds. -/
structure Interval where
  low : Nat
  value : Nat
  high : Nat
  unit : Nat
  closed : Bool

/-- The interval of reals that round to `significand · 2 ^ exponent`.  Below a power of two the
neighbours are half as far apart as above it. -/
def interval (significand : Nat) (exponent : Int) : Interval :=
  let narrow := significand == Nat.pow 2 52 && exponent > minExponent
  let (scale, unit) := match exponent with
    | .ofNat up => (Nat.pow 2 up, 4)
    | .negSucc down => (1, 4 * Nat.pow 2 (down + 1))
  { low := (4 * significand - if narrow then 1 else 2) * scale
    value := 4 * significand * scale
    high := (4 * significand + 2) * scale
    unit := unit
    closed := significand % 2 == 0 }

/-- Whether the decimal lies in the interval. -/
def Interval.contains (i : Interval) (d : Decimal) : Bool :=
  let (point, low, high) := match d.exponent with
    | .ofNat up => (d.digits * Nat.pow 10 up * i.unit, i.low, i.high)
    | .negSucc down =>
        (d.digits * i.unit, i.low * Nat.pow 10 (down + 1), i.high * Nat.pow 10 (down + 1))
  if i.closed then low ≤ point && point ≤ high else low < point && point < high

/-- The quotient and remainder of the value by the step `10 ^ exponent` of a decimal grid, the
remainder and the step in a common unit. -/
def Interval.onGrid (i : Interval) (exponent : Int) : Nat × Nat × Nat :=
  let (value, step) := match exponent with
    | .ofNat up => (i.value, i.unit * Nat.pow 10 up)
    | .negSucc down => (i.value * Nat.pow 10 (down + 1), i.unit)
  (value / step, value % step, step)

/-- The number of decimal digits before the point of the value; zero or less for a fraction. -/
def Interval.magnitude (i : Interval) : Int :=
  if i.unit ≤ i.value then (Text.ofNat (i.value / i.unit)).length
  else 1 - ((Text.ofNat (i.unit / i.value)).length : Int)

/-- The decimal in the interval that is nearest to the value on one grid, if there is one. -/
def Interval.nearest? (i : Interval) (exponent : Int) : Option Decimal :=
  let (quotient, remainder, step) := i.onGrid exponent
  let below : Decimal := ⟨quotient, exponent⟩
  let above : Decimal := ⟨quotient + 1, exponent⟩
  let belowFits := quotient != 0 && i.contains below
  let aboveFits := i.contains above
  if belowFits && aboveFits then
    if 2 * remainder < step then some below
    else if 2 * remainder > step then some above
    else if quotient % 2 == 0 then some below else some above
  else if belowFits then some below
  else if aboveFits then some above
  else none

/-- The first hit on the grids that begin at a decimal place, each one place finer. -/
def Interval.search (i : Interval) (exponent : Int) : Nat → Decimal
  | 0 => ⟨(i.onGrid exponent).1, exponent⟩
  | places + 1 =>
      match i.nearest? exponent with
      | some d => d
      | none => search i (exponent - 1) places

/-- The shortest decimal that reads back as a positive finite number. -/
def shortest (significand : Nat) (exponent : Int) : Decimal :=
  let i := interval significand exponent
  i.search i.magnitude 20

/-! ## Layout -/

/-- How a decimal is laid out: up to which magnitude it is written without an exponent, and the
least number of digits of an exponent. -/
structure Layout where
  leastPositional : Int
  greatestPositional : Int
  exponentDigits : Nat

/-- The layout of numbers in documents and reports: positional from `0.0001` to below `10 ^ 16`,
and an exponent of two digits or more otherwise. -/
def Layout.plain : Layout := ⟨-3, 16, 2⟩

/-- A digit string without the zeros at its end. -/
def withoutTrailingZeros (digits : Text) : Text :=
  (digits.reverse.dropWhile (· == '0')).reverse

/-- Lays out digits whose decimal point stands after the first `point` of them. -/
def Layout.write (layout : Layout) (digits : Text) (point : Int) : Text :=
  if layout.leastPositional ≤ point && point ≤ layout.greatestPositional then
    if point ≤ 0 then "0." ++ List.replicate (-point).toNat '0' ++ digits
    else
      let whole := digits.take point.toNat
      let fraction := digits.drop point.toNat
      whole ++ List.replicate (point.toNat - whole.length) '0' ++ "." ++
        (if fraction.isEmpty then "0".toList else fraction)
  else
    let exponent := point - 1
    digits.take 1 ++ (if digits.length > 1 then '.' :: digits.drop 1 else []) ++ "e" ++
      (if exponent < 0 then "-".toList else "+".toList) ++
      Text.zeroPadded layout.exponentDigits (Text.ofNat exponent.natAbs)

/-- The text of a number: `0.0` for zero, and names for what is no finite number. -/
def write (layout : Layout) (notANumber infinite : Text) : Double → Text
  | .nan => notANumber
  | .infinity negative => (if negative then "-".toList else []) ++ infinite
  | .finite negative significand exponent =>
      (if negative then "-".toList else []) ++
        if significand = 0 then "0.0".toList
        else
          let d := shortest significand exponent
          let digits := Text.ofNat d.digits
          layout.write (withoutTrailingZeros digits) (digits.length + d.exponent)

end HttpScript.Double
