import Mathlib.Algebra.Order.Field.Rat
import Mathlib.Tactic.FieldSimp
import Mathlib.Tactic.Linarith
import Mathlib.Tactic.Ring
import TwoBody.Orbit.Geometry
import TwoBody.Proofs.Formula.Faithfulness

/-!
The shape of an orbit in exact arithmetic, and the formulas that are faithful to it.

The formulas are also faithful to it over other numbers, as long as these are computed with exactly
where nothing is divided by zero.
-/

namespace TwoBody.Orbit

open Std Variable

/-- The orbit with semi-major axis `a` and eccentricity `e`, as far as its shape decides values. -/
def shape (a e : Rat) : Variable → Rat
  | semiMajorAxis => a
  | eccentricity => e
  | periRadius => a * (1 - e)
  | apoRadius => a * (1 + e)
  -- The period and the velocities depend on the central body as well.
  | _ => 0

section Numbers

variable {α : Type} [Add α] [Sub α] [Mul α] [Div α] [OfNat α 1] [OfNat α 2]

/-- The exact numbers can be written as numbers of another type that computes with them exactly. -/
structure ExactArithmetic (write : Rat → α) : Prop where
  /-- One is written as one. -/
  one : (1 : α) = write 1
  /-- Two is written as two. -/
  two : (2 : α) = write 2
  /-- Sums are exact. -/
  add : ∀ left right, write left + write right = write (left + right)
  /-- Differences are exact. -/
  sub : ∀ left right, write left - write right = write (left - right)
  /-- Products are exact. -/
  mul : ∀ left right, write left * write right = write (left * right)
  /-- Quotients are exact, but for those of a division by zero. -/
  div : ∀ left right, right ≠ 0 → write left / write right = write (left / right)

namespace ExactArithmetic

variable {write : Rat → α} (precise : ExactArithmetic write)

include precise

/-- In all exact arithmetic, the apsis radii of every orbit add up to its major axis. -/
theorem faithful_apsisSum (a e : Rat) :
    (apsisSum : Table Variable α).Faithful fun name => write (shape a e name) := by
  -- What each solver computes is written exactly, so an identity of exact numbers is left.
  refine Table.faithful_ofSolvers _ fun name member known values => ?_
  simp only [List.mem_cons, List.not_mem_nil, or_false] at member
  rcases member with rfl | rfl | rfl
  · have axis : (a * (1 + e) + a * (1 - e)) / 2 = a := by ring
    have tells : (write (a * (1 + e)) + write (a * (1 - e))) / 2 = write a := by
      rw [precise.two, precise.add, precise.div _ _ two_ne_zero, axis]
    simpa [values, shape] using tells
  · have far : a * 2 - a * (1 - e) = a * (1 + e) := by ring
    have tells : write a * 2 - write (a * (1 - e)) = write (a * (1 + e)) := by
      rw [precise.two, precise.mul, precise.sub, far]
    simpa [values, shape] using tells
  · have near : a * 2 - a * (1 + e) = a * (1 - e) := by ring
    have tells : write a * 2 - write (a * (1 + e)) = write (a * (1 - e)) := by
      rw [precise.two, precise.mul, precise.sub, near]
    simpa [values, shape] using tells

/-- In all exact arithmetic, the periapsis of a closed orbit tells its eccentricity. -/
theorem faithful_periapsis {a e : Rat} (positive : 0 < a) (closed : e < 1) :
    (periapsis : Table Variable α).Faithful fun name => write (shape a e name) := by
  -- A closed orbit has an axis and a periapsis to divide by.
  have axis : a ≠ 0 := positive.ne'
  have near : 1 - e ≠ 0 := by linarith
  refine Table.faithful_ofSolvers _ fun name member known values => ?_
  simp only [List.mem_cons, List.not_mem_nil, or_false] at member
  rcases member with rfl | rfl | rfl
  · have tells : write a * (1 - write e) = write (a * (1 - e)) := by
      rw [precise.one, precise.sub, precise.mul]
    simpa [values, shape] using tells
  · have tells : write (a * (1 - e)) / (1 - write e) = write a := by
      rw [precise.one, precise.sub, precise.div _ _ near, mul_div_cancel_right₀ a near]
    simpa [values, shape] using tells
  · have rest : 1 - a * (1 - e) / a = e := by
      rw [mul_div_cancel_left₀ (1 - e) axis]
      ring
    have tells : 1 - write (a * (1 - e)) / write a = write e := by
      rw [precise.one, precise.div _ _ axis, precise.sub, rest]
    simpa [values, shape] using tells

/-- In all exact arithmetic, the apsis ratio of a closed orbit tells its eccentricity. -/
theorem faithful_apsisRatio {a e : Rat} (positive : 0 < a) (nonnegative : 0 ≤ e)
    (closed : e < 1) :
    (apsisRatio : Table Variable α).Faithful fun name => write (shape a e name) := by
  -- A closed orbit has an axis and two apsis radii to divide by.
  have axis : a ≠ 0 := positive.ne'
  have near : 1 - e ≠ 0 := by linarith
  have far : 1 + e ≠ 0 := by linarith
  refine Table.faithful_ofSolvers _ fun name member known values => ?_
  simp only [List.mem_cons, List.not_mem_nil, or_false] at member
  rcases member with rfl | rfl | rfl
  · -- The ratio and one add up to the major axis over the periapsis radius.
    have ratio : a * (1 + e) / (a * (1 - e)) + 1 = 2 / (1 - e) := by
      field_simp
      ring
    have divisor : (2 : Rat) / (1 - e) ≠ 0 := div_ne_zero two_ne_zero near
    have rest : 1 - 2 / (2 / (1 - e)) = e := by
      field_simp
      ring
    have tells : 1 - 2 / (write (a * (1 + e)) / write (a * (1 - e)) + 1) = write e := by
      rw [precise.one, precise.two, precise.div _ _ (mul_ne_zero axis near), precise.add, ratio,
        precise.div _ _ divisor, precise.sub, rest]
    simpa [values, shape] using tells
  · have radius : a * (1 - e) * (1 + e) / (1 - e) = a * (1 + e) := by field_simp
    have tells :
        write (a * (1 - e)) * (1 + write e) / (1 - write e) = write (a * (1 + e)) := by
      rw [precise.one, precise.add, precise.sub, precise.mul, precise.div _ _ near, radius]
    simpa [values, shape] using tells
  · have radius : a * (1 + e) * (1 - e) / (1 + e) = a * (1 - e) := by field_simp
    have tells :
        write (a * (1 + e)) * (1 - write e) / (1 + write e) = write (a * (1 - e)) := by
      rw [precise.one, precise.add, precise.sub, precise.mul, precise.div _ _ far, radius]
    simpa [values, shape] using tells

end ExactArithmetic

end Numbers

/-- The exact numbers themselves are computed with exactly. -/
theorem exactArithmetic_id : ExactArithmetic (id : Rat → Rat) where
  one := rfl
  two := rfl
  add _ _ := rfl
  sub _ _ := rfl
  mul _ _ := rfl
  div _ _ _ := rfl

/-- The apsis radii of every orbit add up to its major axis. -/
theorem apsisSum_faithful (a e : Rat) : (apsisSum : Table Variable Rat).Faithful (shape a e) :=
  exactArithmetic_id.faithful_apsisSum a e

/-- The periapsis of a closed orbit tells its eccentricity, and the other way round. -/
theorem periapsis_faithful {a e : Rat} (positive : 0 < a) (closed : e < 1) :
    (periapsis : Table Variable Rat).Faithful (shape a e) :=
  exactArithmetic_id.faithful_periapsis positive closed

/-- The apsis ratio of a closed orbit tells its eccentricity, and the other way round. -/
theorem apsisRatio_faithful {a e : Rat} (positive : 0 < a) (nonnegative : 0 ≤ e) (closed : e < 1) :
    (apsisRatio : Table Variable Rat).Faithful (shape a e) :=
  exactArithmetic_id.faithful_apsisRatio positive nonnegative closed

end TwoBody.Orbit
