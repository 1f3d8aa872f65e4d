import TwoBody.Formula

/-! Tabulated formulas: one solver for each declared variable, some of which may yield nothing. -/

namespace TwoBody

open Std

/-- A way to compute the value of one variable from the known ones, where it has one. -/
abbrev Solver (K V : Type) [Ord K] : Type :=
  Bindings K V → Option V

/-- The solver that never yields a value. -/
def Solver.silent {K V : Type} [Ord K] : Solver K V :=
  fun _ => none

/-- A formula given by a table with one solver for each declared variable. -/
structure Table (K V : Type) [Ord K] [TransOrd K] where
  /-- The related variables, in the order of their declaration. -/
  declared : List K
  /-- The solver of each variable. -/
  solvers : ExtTreeMap K (Solver K V) compare
  /-- At least one variable is declared. -/
  nonempty : declared ≠ []
  /-- The table has an entry for exactly the declared variables. -/
  covered : ∀ name, name ∈ solvers ↔ name ∈ declared

namespace Table

variable {K V : Type} [Ord K] [TransOrd K]

/-- The table that gives each of the listed variables its solver. -/
def tabulate (declared : List K) (solver : K → Solver K V) :
    ExtTreeMap K (Solver K V) compare :=
  declared.foldl (fun table name => table.insert name (solver name)) ∅

/-- A tabulated table has an entry for exactly the listed variables. -/
theorem mem_tabulate [LawfulEqOrd K] {declared : List K} {solver : K → Solver K V} {name : K} :
    name ∈ tabulate declared solver ↔ name ∈ declared := by
  -- Each listed variable adds its own entry to those already there.
  have general : ∀ table : ExtTreeMap K (Solver K V) compare,
      name ∈ declared.foldl (fun table name => table.insert name (solver name)) table ↔
        name ∈ table ∨ name ∈ declared := by
    induction declared with
    | nil => intro table; simp
    | cons head rest ih =>
      intro table
      simp only [List.foldl_cons, ih, ExtTreeMap.mem_insert, LawfulEqCmp.compare_eq_iff_eq,
        List.mem_cons]
      grind
  simpa [tabulate] using general ∅

variable [LawfulEqOrd K]

/-- A formula over the given variables, with the solver that `solver` gives for each of them. -/
def ofSolvers (declared : List K) (nonempty : declared ≠ []) (solver : K → Solver K V) :
    Table K V where
  declared := declared
  solvers := tabulate declared solver
  nonempty := nonempty
  covered := fun _ => mem_tabulate

/-- A formula over the given variables that cannot be solved for any of them yet. -/
def ofVariables (declared : List K) : Except (FormulaError K) (Table K V) :=
  if nonempty : declared = [] then .error .noVariables
  else .ok (ofSolvers declared nonempty fun _ => Solver.silent)

/-- Registers how one declared variable is computed, in place of what was registered before. -/
def addSolver (table : Table K V) (name : K) (solver : Solver K V) :
    Except (FormulaError K) (Table K V) :=
  if present : name ∈ table.solvers then
    .ok { table with
      solvers := table.solvers.insert name solver
      covered := fun other => by
        -- The entry that is written was there before, so the set of entries stays the same.
        simp only [ExtTreeMap.mem_insert, LawfulEqCmp.compare_eq_iff_eq, ← table.covered other]
        exact ⟨fun either => either.elim (fun same => same ▸ present) id, Or.inr⟩ }
  else .error (.undeclaredVariable name)

/-- Forgets how one declared variable is computed; the variable stays declared. -/
def removeSolver (table : Table K V) (name : K) : Except (FormulaError K) (Table K V) :=
  table.addSolver name Solver.silent

/-- The value of the one missing variable, computed by its own solver. -/
def solve (table : Table K V) (known : Bindings K V) : Option (K × V) :=
  if atMostOneMissing table.declared known then
    match found : lastMissing? table.declared known with
    | none => none
    | some name =>
      -- A missing variable is declared, so the table has its solver.
      have present : name ∈ table.solvers := (table.covered name).mpr (mem_of_lastMissing? found)
      (table.solvers[name] known).map fun value => (name, value)
  else none

/-- A table as a formula, which is ready when at most one variable is missing. -/
def toFormula (table : Table K V) : Formula K V where
  declared := table.declared
  solve := table.solve

/-- A tabulated formula is shown by its variables, in the order of their declaration. -/
instance [Inspect K] : Inspect (Table K V) where
  inspect table :=
    "formula(" ++ String.intercalate ", " (table.declared.map inspect) ++ ")"

end Table

end TwoBody
