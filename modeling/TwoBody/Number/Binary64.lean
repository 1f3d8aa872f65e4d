/-! What the 64 bits of a floating-point number stand for. -/

namespace TwoBody

/-- A floating-point number taken apart. -/
inductive Binary64 where
  /-- Not a number. -/
  | nan
  /-- Plus or minus infinity. -/
  | infinite (negative : Bool)
  /-- The number `mantissa * 2 ^ exponent`, or its negative; a zero has a sign, too. -/
  | finite (negative : Bool) (mantissa : Nat) (exponent : Int)
  deriving DecidableEq, Repr

namespace Binary64

/-- The number of mantissa values that share one exponent: the place of the 53rd bit. -/
def binade : Nat := 0x10000000000000

/-- The exponent of the smallest numbers, which is also that of the first binade. -/
def leastExponent : Int := -1074

/-- The place of the sign bit, which is the 64th. -/
def signPlace : Nat := 0x8000000000000000

/-- Takes a floating-point number apart: a sign bit, eleven exponent bits, 52 mantissa bits. -/
def ofFloat (number : Float) : Binary64 :=
  let bits := number.toBits.toNat
  let negative := signPlace ≤ bits
  let field := bits / binade % 2048
  let fraction := bits % binade
  if field = 2047 then
    if fraction = 0 then .infinite negative else .nan
  else if field = 0 then .finite negative fraction leastExponent
  else .finite negative (binade + fraction) (leastExponent + (field - 1))

/--
The floating-point number with the given magnitude, for a mantissa and an exponent in place.

A mantissa is in place below `binade` at the least exponent, and from `binade` up to and including
twice that at any other: the numbers of one sign are consecutive, so a full mantissa carries into
the exponent.
-/
def pack (negative : Bool) (mantissa : Nat) (exponent : Int) : Float :=
  let sign := if negative then signPlace else 0
  let steps := (exponent - leastExponent).toNat
  Float.ofBits (UInt64.ofNat (sign + steps * binade + mantissa))

end Binary64

end TwoBody
