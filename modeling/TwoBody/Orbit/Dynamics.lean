import TwoBody.Formula.Table
import TwoBody.Number.CubeRoot
import TwoBody.Orbit.Bodies
import TwoBody.Orbit.Variable

/-! The formulas between an orbit, its period, its velocities and its central body. -/

namespace TwoBody.Orbit

open Variable

/-- The velocity at periapsis, by the vis-viva equation. -/
def visVivaPeriapsis : Table Variable Float :=
  .ofSolvers [gm, periVelocity, periRadius, apoRadius] (by simp) fun
    | periVelocity => fun known => do
      let gm ← known[gm]?
      let rp ← known[periRadius]?
      let ra ← known[apoRadius]?
      return (2 * gm * ra / (rp * (rp + ra))).sqrt
    | _ => Solver.silent

/-- The velocity at apoapsis, by the vis-viva equation. -/
def visVivaApoapsis : Table Variable Float :=
  .ofSolvers [gm, periRadius, apoRadius, apoVelocity] (by simp) fun
    | apoVelocity => fun known => do
      let gm ← known[gm]?
      let rp ← known[periRadius]?
      let ra ← known[apoRadius]?
      return (2 * gm * rp / (ra * (ra + rp))).sqrt
    | _ => Solver.silent

/-- The square of the period is to the cube of the semi-major axis as 4π² is to GM. -/
def keplerThirdLaw : Table Variable Float :=
  .ofSolvers [gm, period, semiMajorAxis] (by simp) fun
    | semiMajorAxis => fun known => do
      let gm ← known[gm]?
      let t ← known[period]?
      return cubeRoot (gm * t * t / (4 * pi * pi))
    | period => fun known => do
      let gm ← known[gm]?
      let a ← known[semiMajorAxis]?
      return 2 * pi * (cubed a / gm).sqrt
    | gm => fun known => do
      let t ← known[period]?
      let a ← known[semiMajorAxis]?
      return 4 * pi * pi * cubed a / (t * t)
    | _ => Solver.silent

end TwoBody.Orbit
