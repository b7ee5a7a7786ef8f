import HttpScript.Text.Digit

/-!
# Floating point numbers

A number with a fraction or an exponent is held with 53 significant bits, rounded to nearest and
ties to even.  It is kept as its exact value, `significand · 2 ^ exponent`, so that comparing it
with a whole number is exact and needs no rounding.
-/

namespace HttpScript

/-- A floating point number with 53 significant bits. -/
inductive Double
  | nan
  | infinity (negative : Bool)
  | finite (negative : Bool) (significand : Nat) (exponent : Int)
deriving DecidableEq, Repr

namespace Double

/-- The least exponent of a finite number. -/
def minExponent : Int := -1074

/-- The greatest exponent of a finite number. -/
def maxExponent : Int := 971

/-- Zero with a sign. -/
def signedZero (negative : Bool) : Double :=
  .finite negative 0 minExponent

/-- The quotient of two natural numbers rounded to nearest, a tie to the even neighbour. -/
def roundedQuotient (numerator denominator : Nat) : Nat :=
  let quotient := numerator / denominator
  let twice := 2 * (numerator % denominator)
  if twice < denominator then quotient
  else if twice > denominator then quotient + 1
  else if quotient % 2 == 0 then quotient else quotient + 1

/-- The fraction `numerator / denominator` divided by `2 ^ exponent`. -/
def scaledFraction (numerator denominator : Nat) : Int → Nat × Nat
  | .ofNat up => (numerator, denominator * Nat.pow 2 up)
  | .negSucc down => (numerator * Nat.pow 2 (down + 1), denominator)

/-- The exponent that gives the quotient 53 bits, or the least exponent for a smaller one. -/
def exponentOf (numerator denominator : Nat) : Int :=
  let guess : Int := (Nat.log2 numerator : Int) - (Nat.log2 denominator : Int) - 52
  let (scaled, unit) := scaledFraction numerator denominator guess
  max (if scaled / unit < Nat.pow 2 52 then guess - 1 else guess) minExponent

/-- The floating point number nearest to a fraction with positive denominator. -/
def ofFraction (negative : Bool) (numerator denominator : Nat) : Double :=
  if numerator = 0 then signedZero negative
  else
    let exponent := exponentOf numerator denominator
    let (scaled, unit) := scaledFraction numerator denominator exponent
    let rounded := roundedQuotient scaled unit
    let (significand, exponent) :=
      if rounded = Nat.pow 2 53 then (Nat.pow 2 52, exponent + 1) else (rounded, exponent)
    if exponent > maxExponent then .infinity negative else .finite negative significand exponent

/-- The floating point number nearest to `digits · 10 ^ exponent`. -/
def ofDecimal (negative : Bool) (digits : Nat) (exponent : Int) : Double :=
  if digits = 0 then signedZero negative
  else
    let magnitude : Int := (Text.ofNat digits).length + exponent
    if magnitude > 400 then .infinity negative
    else if magnitude < -400 then signedZero negative
    else match exponent with
      | .ofNat up => ofFraction negative (digits * Nat.pow 10 up) 1
      | .negSucc down => ofFraction negative digits (Nat.pow 10 (down + 1))

/-! ## The exact value -/

/-- The value of a finite number as a fraction with positive denominator. -/
def fraction? : Double → Option (Int × Nat)
  | .nan => none
  | .infinity _ => none
  | .finite negative significand exponent =>
      let (numerator, denominator) := match exponent with
        | .ofNat up => (significand * Nat.pow 2 up, 1)
        | .negSucc down => (significand, Nat.pow 2 (down + 1))
      some (if negative then -(numerator : Int) else numerator, denominator)

/-- Equality of values: zero equals zero whatever its sign, and nothing equals what is no number. -/
def eqv (x y : Double) : Bool :=
  match x, y with
  | .infinity negative, .infinity negative' => negative == negative'
  | _, _ =>
      match x.fraction?, y.fraction? with
      | some (a, b), some (c, d) => a * d == c * b
      | _, _ => false

/-- Whether the value is exactly the given whole number. -/
def eqvInt (x : Double) (i : Int) : Bool :=
  match x.fraction? with
  | some (a, b) => a == i * b
  | none => false

/-- The whole part of a finite number, the fraction cut off. -/
def truncate? (x : Double) : Option Int :=
  x.fraction?.map fun (numerator, denominator) => Int.tdiv numerator denominator

end Double

end HttpScript
