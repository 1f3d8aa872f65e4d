import Mathlib.Algebra.Order.Field.Rat

/-!
Counted numbers: exact numbers that carry how often zero was divided by on the way to them.

Exact arithmetic is total, so a division by zero has some value. The count tells it apart.
-/

namespace TwoBody

/-- An exact number with the number of divisions by zero that it was computed with. -/
structure Counted where
  /-- The number itself. -/
  value : Rat
  /-- How often zero was divided by, in computing it and all that it was computed from. -/
  zeroDivisions : Nat
deriving DecidableEq

namespace Counted

/-- A number that was not computed at all. -/
def given (value : Rat) : Counted :=
  ⟨value, 0⟩

/-- A number computed from two others, with some more divisions by zero. -/
def computed (value : Rat) (left right : Counted) (more : Nat) : Counted :=
  ⟨value, left.zeroDivisions + right.zeroDivisions + more⟩

instance (literal : Nat) : OfNat Counted literal :=
  ⟨given literal⟩

instance : Add Counted :=
  ⟨fun left right => computed (left.value + right.value) left right 0⟩

instance : Sub Counted :=
  ⟨fun left right => computed (left.value - right.value) left right 0⟩

instance : Mul Counted :=
  ⟨fun left right => computed (left.value * right.value) left right 0⟩

/-- Only a division adds to the count, and only where the divisor is zero. -/
instance : Div Counted :=
  ⟨fun left right =>
    computed (left.value / right.value) left right (if right.value = 0 then 1 else 0)⟩

/-- One stays what it is. -/
@[simp] theorem value_one : (1 : Counted).value = 1 := rfl

/-- Two stays what it is. -/
@[simp] theorem value_two : (2 : Counted).value = 2 := rfl

/-- Counting does not change sums. -/
@[simp] theorem value_add (left right : Counted) :
    (left + right).value = left.value + right.value := rfl

/-- Counting does not change differences. -/
@[simp] theorem value_sub (left right : Counted) :
    (left - right).value = left.value - right.value := rfl

/-- Counting does not change products. -/
@[simp] theorem value_mul (left right : Counted) :
    (left * right).value = left.value * right.value := rfl

/-- Counting does not change quotients, not even those of a division by zero. -/
@[simp] theorem value_div (left right : Counted) :
    (left / right).value = left.value / right.value := rfl

end Counted

end TwoBody
