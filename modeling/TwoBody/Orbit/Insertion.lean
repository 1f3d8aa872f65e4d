import TwoBody.Orbit.Dynamics

/-! Insertion orbits, whose period is a portion of that of a circular orbit. -/

namespace TwoBody.Orbit

/-- The period of the circular orbit of the given radius. -/
def circularPeriod (radius gm : Float) : Float :=
  (4 * pi * pi * cubed radius / gm).sqrt

/-- The bindings of the orbit with periapsis `radius` and that portion of the circular period. -/
def insertion (radius portion gm : Float) : List (Variable × Float) :=
  [(.periRadius, radius), (.gm, gm), (.period, circularPeriod radius gm * portion)]

end TwoBody.Orbit
