import TwoBody.Proofs.Input.Binding
import TwoBody.Proofs.Input.Value

/-!
The grammar of bindings: every text that can be typed, and what it is read as.

A text that is no binding has exactly one fault. The separator is looked for first, then the name
and then the value, so a fault in the value is reported only behind a name that is known.
-/

namespace TwoBody

open Orbit

/-- The earliest separator counts, and the fault of the name hides that of the value. -/
example :
    readBinding " a :GM-Mun" = .ok (.semiMajorAxis, Orbit.gmMun) ∧
    readBinding "\u3000e:\t.5=1 " = .error (.invalidNumber ".5=1") ∧
    readBinding "E =:" = .error (.unknownVariable "E") := by
  decide +kernel

end TwoBody
