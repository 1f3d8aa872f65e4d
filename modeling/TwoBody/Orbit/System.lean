import TwoBody.Orbit.Dynamics
import TwoBody.Orbit.Geometry
import TwoBody.System

/-! The system of orbit formulas, and the central body that is assumed where none is given. -/

namespace TwoBody.Orbit

/-- The formulas of an orbit, in the order in which a pass asks them. -/
def formulas : List (Formula Variable Float) :=
  [visVivaPeriapsis, visVivaApoapsis, keplerThirdLaw, apsisSum, periapsis, apsisRatio].map
    Table.toFormula

/-- The system of all orbit formulas, with nothing known yet. -/
def system : System Variable Float :=
  .ofFormulas formulas

/-- Whether a central body has to be assumed. -/
def needsGm (system : System Variable Float) : Bool :=
  Variable.gm ∉ system.known

/-- Takes Kerbin for the central body unless another gravitational parameter is known. -/
def withGm (system : System Variable Float) : System Variable Float :=
  if needsGm system then system.set .gm gmKerbin else system

end TwoBody.Orbit
