import TwoBody.Formula.Table
import TwoBody.Orbit.Variable

/-!
The formulas between the shape and the size of an orbit.

They only add, subtract, multiply and divide, so they are stated over any numbers that can.
-/

namespace TwoBody.Orbit

open Variable

variable {α : Type} [Add α] [Sub α] [Mul α] [Div α] [OfNat α 1] [OfNat α 2]

/-- The apsis radii add up to the major axis. -/
def apsisSum : Table Variable α :=
  .ofSolvers [semiMajorAxis, apoRadius, periRadius] (by simp) fun
    | periRadius => fun known => do
      let a ← known[semiMajorAxis]?
      let ra ← known[apoRadius]?
      return a * 2 - ra
    | apoRadius => fun known => do
      let a ← known[semiMajorAxis]?
      let rp ← known[periRadius]?
      return a * 2 - rp
    | semiMajorAxis => fun known => do
      let ra ← known[apoRadius]?
      let rp ← known[periRadius]?
      return (ra + rp) / 2
    | _ => Solver.silent

/-- The periapsis radius from the semi-major axis and the eccentricity. -/
def periapsis : Table Variable α :=
  .ofSolvers [periRadius, semiMajorAxis, eccentricity] (by simp) fun
    | periRadius => fun known => do
      let a ← known[semiMajorAxis]?
      let e ← known[eccentricity]?
      return a * (1 - e)
    | semiMajorAxis => fun known => do
      let rp ← known[periRadius]?
      let e ← known[eccentricity]?
      return rp / (1 - e)
    | eccentricity => fun known => do
      let rp ← known[periRadius]?
      let a ← known[semiMajorAxis]?
      return 1 - rp / a
    | _ => Solver.silent

/-- The eccentricity from the ratio of the apsis radii. -/
def apsisRatio : Table Variable α :=
  .ofSolvers [eccentricity, apoRadius, periRadius] (by simp) fun
    | eccentricity => fun known => do
      let ra ← known[apoRadius]?
      let rp ← known[periRadius]?
      return 1 - 2 / (ra / rp + 1)
    | apoRadius => fun known => do
      let e ← known[eccentricity]?
      let rp ← known[periRadius]?
      return rp * (1 + e) / (1 - e)
    | periRadius => fun known => do
      let e ← known[eccentricity]?
      let ra ← known[apoRadius]?
      return ra * (1 - e) / (1 + e)
    | _ => Solver.silent

end TwoBody.Orbit
