import TwoBody.Input.Ratio
import TwoBody.Orbit.Insertion

/-! Insertion orbits in typed input: `height portion [GM]`. -/

namespace TwoBody

open Orbit

/-- Reads the arguments of an insertion orbit; the gravitational parameter may be left out. -/
def readInsertion : List String → Except InputError (List (Variable × Float))
  | [height, portion] => readAll height portion defaultGm
  | [height, portion, gm] => readAll height portion gm
  | others => .error (.insertionArguments others.length)
where
  /-- Reads the three arguments in order; the first that is wrong decides. -/
  readAll (height portion gm : String) : Except InputError (List (Variable × Float)) := do
    let radius ← readHeight height
    let share ← readRatio portion
    let parameter ← readGm gm
    return insertion radius share parameter

end TwoBody
