import TwoBody.Bindings

/-! The variables of a two-body orbit, their short names and their order. -/

namespace TwoBody.Orbit

open Std

/-- A variable of a two-body orbit. -/
inductive Variable where
  /-- Gravitational parameter of the central body, in m³/s². -/
  | gm
  /-- Orbital period, in s. -/
  | period
  /-- Radius at periapsis, in m. -/
  | periRadius
  /-- Velocity at periapsis, in m/s. -/
  | periVelocity
  /-- Radius at apoapsis, in m. -/
  | apoRadius
  /-- Velocity at apoapsis, in m/s. -/
  | apoVelocity
  /-- Eccentricity. -/
  | eccentricity
  /-- Semi-major axis, in m. -/
  | semiMajorAxis
  deriving DecidableEq, Repr

namespace Variable

/-- The place of a variable in the order in which variables are listed. -/
def rank : Variable → Nat
  | gm => 0
  | period => 1
  | periRadius => 2
  | periVelocity => 3
  | apoRadius => 4
  | apoVelocity => 5
  | eccentricity => 6
  | semiMajorAxis => 7

/-- All variables, in the order in which they are listed. -/
def all : List Variable :=
  [gm, period, periRadius, periVelocity, apoRadius, apoVelocity, eccentricity, semiMajorAxis]

/-- The short name by which input and output refer to a variable. -/
def name : Variable → String
  | gm => "GM"
  | period => "period"
  | periRadius => "Rp"
  | periVelocity => "Vp"
  | apoRadius => "Ra"
  | apoVelocity => "Va"
  | eccentricity => "e"
  | semiMajorAxis => "a"

/-- The variable with the given short name; upper and lower case differ. -/
def ofName? (text : String) : Option Variable :=
  all.find? fun candidate => candidate.name = text

/-- Diagnostics show a variable by its full name. -/
instance : Inspect Variable where
  inspect
    | gm => "Gm"
    | period => "Period"
    | periRadius => "PeriRadius"
    | periVelocity => "PeriVelocity"
    | apoRadius => "ApoRadius"
    | apoVelocity => "ApoVelocity"
    | eccentricity => "Eccentricity"
    | semiMajorAxis => "SemiMajorAxis"

/-- Every variable is listed. -/
@[simp] theorem mem_all (symbol : Variable) : symbol ∈ all := by
  cases symbol <;> decide

/-- Variables with the same place are the same. -/
theorem rank_injective {left right : Variable} (same : left.rank = right.rank) : left = right := by
  revert same
  cases left <;> cases right <;> decide

/-- The name of a variable leads back to it. -/
@[simp] theorem ofName?_name (symbol : Variable) : ofName? symbol.name = some symbol := by
  cases symbol <;> decide

/-- Variables are ordered by their place in the list. -/
instance : Ord Variable where
  compare left right := compare left.rank right.rank

instance : TransOrd Variable where
  eq_swap {left right} := Nat.compare_swap right.rank left.rank |>.symm
  isLE_trans {first second third} := by
    -- The places are compared as natural numbers.
    exact TransOrd.isLE_trans (α := Nat)

instance : LawfulEqOrd Variable where
  eq_of_compare same := rank_injective (Nat.compare_eq_eq.mp same)

end Variable

end TwoBody.Orbit
