import TwoBody.Input.Error
import TwoBody.Number.Numeral
import TwoBody.Orbit.Bodies
import TwoBody.Text.Blank

/-! Values in typed input: numbers, and constants by their names. -/

namespace TwoBody

/-- Reads a number with white space around it. -/
def readNumber (text : String) : Except InputError Float :=
  match readFloat? (trim text.toList) with
  | some number => .ok number
  | none => .error (.invalidNumber text)

/-- A list of constants with their names. -/
abbrev Constants : Type :=
  List (String × Float)

/-- The name of the gravitational parameter that is taken where none is given. -/
def defaultGm : String := "GM-kerbin"

/-- The gravitational parameters that have a name. -/
def namedGms : Constants :=
  [(defaultGm, Orbit.gmKerbin), ("GM-earth", Orbit.gmEarth), ("GM-Mun", Orbit.gmMun)]

/-- The orbit heights that have a name. -/
def namedHeights : Constants :=
  [("geosync-kerbin", Orbit.geosyncKerbin), ("geostationary", Orbit.geostationary)]

/-- Reads the exact name of one of the constants, or else a number. -/
def readConstantOr (constants : Constants) (text : String) : Except InputError Float :=
  match constants.lookup text with
  | some value => .ok value
  | none => readNumber text

/-- Reads a gravitational parameter. -/
def readGm (text : String) : Except InputError Float :=
  readConstantOr namedGms text

/-- Reads an orbit height. -/
def readHeight (text : String) : Except InputError Float :=
  readConstantOr namedHeights text

/-- Reads any value: a gravitational parameter or a height by its name, or a number. -/
def readValue (text : String) : Except InputError Float :=
  match readGm text with
  | .ok value => .ok value
  | .error _ => readHeight text

end TwoBody
