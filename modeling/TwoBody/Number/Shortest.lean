import TwoBody.Number.Binary64

/-!
The shortest decimal that reads back as a given floating-point number.

A decimal grid is the set of multiples of one power of ten. Of all decimals that round to the
number, the shortest lie on the coarsest grid that has any, and of those the nearest is chosen.
-/

namespace TwoBody

/-- Which of two decimals is chosen that lie equally near on either side of a magnitude. -/
inductive Tie where
  /-- The larger one. -/
  | up
  /-- The one with an even last digit. -/
  | even
  deriving DecidableEq, Repr

/-- The decimal number `coefficient * 10 ^ exponent`. -/
structure Decimal where
  coefficient : Nat
  exponent : Int
  deriving DecidableEq, Repr

/--
The numbers that round to one binary number: those between `low` and `high`.

The three numbers are multiples of `2 ^ exponent`; the ends belong to the interval if `closed`.
-/
structure RoundingInterval where
  low : Nat
  value : Nat
  high : Nat
  exponent : Int
  closed : Bool

namespace RoundingInterval

/--
The numbers that round to `mantissa * 2 ^ exponent`.

They reach half way to the neighbours on both sides, in quarters of the last place. The neighbour
below the first number of a binade is only half as far away as the one above it. A number half way
between two others rounds to the one with an even mantissa.
-/
def around (mantissa : Nat) (exponent : Int) : RoundingInterval where
  low :=
    if mantissa = Binary64.binade ∧ exponent ≠ Binary64.leastExponent then 4 * mantissa - 1
    else 4 * mantissa - 2
  value := 4 * mantissa
  high := 4 * mantissa + 2
  exponent := exponent - 2
  closed := mantissa % 2 = 0

/-- Factors that bring a multiple of `10 ^ tens` and one of `2 ^ twos` to a common unit. -/
def commonUnit (tens twos : Int) : Nat × Nat :=
  (Nat.pow 10 tens.toNat * Nat.pow 2 (-twos).toNat, Nat.pow 2 twos.toNat * Nat.pow 10 (-tens).toNat)

/-- Whether `coefficient * 10 ^ tens` lies in the interval. -/
def holds (interval : RoundingInterval) (tens : Int) (coefficient : Nat) : Bool :=
  let (tenFactor, twoFactor) := commonUnit tens interval.exponent
  let point := coefficient * tenFactor
  if interval.closed then interval.low * twoFactor ≤ point ∧ point ≤ interval.high * twoFactor
  else interval.low * twoFactor < point ∧ point < interval.high * twoFactor

/-- The nearest decimal of the interval on the grid of `10 ^ tens`, if the grid has one there. -/
def nearest? (interval : RoundingInterval) (tie : Tie) (tens : Int) : Option Nat :=
  let (tenFactor, twoFactor) := commonUnit tens interval.exponent
  -- If any point of the grid is in the interval, so is one of the two next to the value.
  let below := interval.value * twoFactor / tenFactor
  let above := below + 1
  match interval.holds tens below, interval.holds tens above with
  | false, false => none
  | true, false => some below
  | false, true => some above
  | true, true =>
    match compare (2 * interval.value * twoFactor) ((below + above) * tenFactor), tie with
    | .lt, _ => some below
    | .gt, _ => some above
    | .eq, .up => some above
    | .eq, .even => some (if below % 2 = 0 then below else above)

/-- The first decimal found when going from the grid of `10 ^ tens` to ever finer ones. -/
def search (interval : RoundingInterval) (tie : Tie) : Nat → Int → Decimal
  | 0, tens => ⟨(interval.nearest? tie tens).getD 0, tens⟩
  | finer + 1, tens =>
    match interval.nearest? tie tens with
    | some coefficient => ⟨coefficient, tens⟩
    | none => search interval tie finer (tens - 1)

end RoundingInterval

/--
The shortest decimal that reads back as the positive number `mantissa * 2 ^ exponent`.

The search starts above the number's first digit, where no grid has a decimal yet, and seventeen
digits are always enough, so it ends within the steps it is given.
-/
def shortest (tie : Tie) (mantissa : Nat) (exponent : Int) : Decimal :=
  -- One binary digit is worth a little less than 0.30103 decimal digits.
  let binaryDigits : Int := mantissa.log2 + 1 + exponent
  (RoundingInterval.around mantissa exponent).search tie 24 (binaryDigits * 30103 / 100000 + 2)

end TwoBody
