/-! Central bodies: their gravitational parameters, and the heights of synchronous orbits. -/

namespace TwoBody.Orbit

/-- The gravitational parameter of the Earth, in m³/s². -/
def gmEarth : Float := 3.986004418e14

/-- The gravitational parameter of Kerbin, in m³/s². -/
def gmKerbin : Float := 3.5316e12

/-- The gravitational parameter of the Mun, in m³/s². -/
def gmMun : Float := 6.5138398e10

/-- The height of a synchronous orbit around Kerbin, in m. -/
def geosyncKerbin : Float := 3463330

/-- The height of a geostationary orbit around the Earth, in m. -/
def geostationary : Float := 35786000

/-- The ratio of a circle's circumference to its diameter. -/
def pi : Float := 3.141592653589793

end TwoBody.Orbit
