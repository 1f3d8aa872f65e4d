import TwoBody.Pass

/-!
Systems of formulas: known bindings and the formulas that have not fired yet.

Adding bindings makes passes over the pending formulas for as long as the last pass derived
something. A formula that fires is retired, whether it yields a binding or not.
-/

namespace TwoBody

open Std

/-- Known bindings together with the formulas that have not fired yet. -/
structure System (K V : Type) [Ord K] [TransOrd K] where
  /-- The bindings known so far. -/
  known : Bindings K V
  /-- The formulas that have not fired yet, in the order they were given. -/
  pending : List (Formula K V)

namespace System

variable {K V : Type} [Ord K] [TransOrd K]

/-- A system over the given formulas in which nothing is known. -/
def ofFormulas (formulas : List (Formula K V)) : System K V :=
  ⟨∅, formulas⟩

/-- The passes that saturate a system: the last one derives nothing, all others something. -/
def passes (system : System K V) : List (Pass K V) :=
  let pass := Pass.scan system.known system.pending
  if productive : pass.derived ≠ [] then
    have : pass.waiting.length < system.pending.length := Pass.length_waiting_lt productive
    pass :: passes ⟨pass.known, pass.waiting⟩
  else [pass]
termination_by system.pending.length

/-- The system with more bindings known, before any formula is asked about them. -/
def supply (system : System K V) (supplied : List (K × V)) : System K V :=
  { system with known := system.known.merge supplied }

/-- The system that the last of its passes leaves. -/
def saturated (system : System K V) : System K V :=
  system.passes.foldl (fun _ pass => ⟨pass.known, pass.waiting⟩) system

/-- Adds bindings and derives what follows from them. -/
def add (system : System K V) (supplied : List (K × V)) : System K V :=
  (system.supply supplied).saturated

/-- Whether adding these bindings retires a pending formula. -/
def retires (system : System K V) (supplied : List (K × V)) : Bool :=
  (system.supply supplied).passes.any fun pass => !pass.fired.isEmpty

/-- Adds a single binding. -/
def set (system : System K V) (name : K) (value : V) : System K V :=
  system.add [(name, value)]

/-- Makes one addition after the other. -/
def run (system : System K V) (additions : List (List (K × V))) : System K V :=
  additions.foldl add system

/-- A system is shown by its known bindings and the number of its pending formulas. -/
instance [Inspect K] [Inspect V] : Inspect (System K V) where
  inspect system :=
    "FormulaSystem \x7b known: " ++ inspect system.known ++ ", pending: " ++
      inspect system.pending.length ++ " \x7d"

end System

end TwoBody
