import TwoBody.Bindings

/-! Formulas: relations over an ordered list of variables that can yield one missing value. -/

namespace TwoBody

open Std

variable {K V : Type} [Ord K] [TransOrd K]

/-- The declared variables without a known value, in order and with their repetitions. -/
def missing (declared : List K) (known : Bindings K V) : List K :=
  declared.filter fun name => name ∉ known

/-- At most one position of the declared list holds a variable without a known value. -/
def atMostOneMissing (declared : List K) (known : Bindings K V) : Bool :=
  (missing declared known).length ≤ 1

/-- The last declared variable without a known value. -/
def lastMissing? (declared : List K) (known : Bindings K V) : Option K :=
  (missing declared known).getLast?

/-- A missing variable is one of those declared. -/
theorem mem_of_lastMissing? {declared : List K} {known : Bindings K V} {name : K}
    (found : lastMissing? declared known = some name) : name ∈ declared := by
  -- Dropping the known variables keeps only declared ones.
  exact (List.mem_filter.mp (List.mem_of_getLast? found)).1

/--
A relation over an ordered list of variables.

A formula that is ready is asked once to yield a binding, and need not have one.
-/
structure Formula (K V : Type) [Ord K] [TransOrd K] where
  /-- The related variables, in the order of their declaration. -/
  declared : List K
  /-- A binding computed from the known ones, where there is one. -/
  solve : Bindings K V → Option (K × V)
  /-- Whether enough variables are known to ask for a binding. -/
  ready : Bindings K V → Bool := atMostOneMissing declared

/-- The last variable of a formula without a known value. -/
def Formula.unknown? (formula : Formula K V) (known : Bindings K V) : Option K :=
  lastMissing? formula.declared known

/-- Ways in which a formula can be put together wrongly. -/
inductive FormulaError (K : Type) where
  /-- A solver was given for a variable that the formula does not relate. -/
  | undeclaredVariable (name : K)
  /-- A formula has to relate at least one variable. -/
  | noVariables

/-- The text of a formula error. -/
def FormulaError.message {K : Type} [Inspect K] : FormulaError K → String
  | .undeclaredVariable name =>
    "Variable " ++ inspect name ++ " is not registered within the formula"
  | .noVariables => "Cannot create a formula without variables"

end TwoBody
