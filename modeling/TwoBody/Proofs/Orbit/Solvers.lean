import TwoBody.Orbit.System
import TwoBody.Proofs.Formula.Answer

/-! The solvers of the orbit formulas: what they read, and which of them yield values. -/

namespace TwoBody.Orbit

open Std Variable

/-- The orbit formulas as tables, each with the variables that it can be solved for. -/
def solvable : List (Table Variable Float × List Variable) :=
  [(visVivaPeriapsis, [periVelocity]), (visVivaApoapsis, [apoVelocity]),
    (keplerThirdLaw, [semiMajorAxis, period, gm]),
    (apsisSum, [periRadius, apoRadius, semiMajorAxis]),
    (periapsis, [periRadius, semiMajorAxis, eccentricity]),
    (apsisRatio, [eccentricity, apoRadius, periRadius])]

/-- The orbit formulas as tables, in the order in which a pass asks them. -/
def tables : List (Table Variable Float) :=
  solvable.map Prod.fst

/-- The formulas of the orbit system are these tables. -/
theorem formulas_eq : formulas = tables.map Table.toFormula := rfl

/-- No orbit formula declares a variable twice. -/
theorem nodup_of_mem_tables : ∀ table ∈ tables, table.declared.Nodup := by
  decide

/-- Every solver of an orbit formula reads nothing but the other variables of the formula. -/
theorem local_of_mem_tables : ∀ table ∈ tables, table.Local := by
  -- Each formula is checked solver by solver.
  simp only [tables, solvable, List.map_cons, List.map_nil, List.mem_cons, List.not_mem_nil,
    or_false, forall_eq_or_imp, forall_eq]
  refine ⟨?_, ?_, ?_, ?_, ?_, ?_⟩
  all_goals
    refine Table.local_ofSolvers _ fun name member known other agree => ?_
    cases name <;> simp_all [Solver.silent]

/-- An orbit formula yields a value exactly for the variables that it can be solved for. -/
theorem solvesFor_of_mem_solvable : ∀ entry ∈ solvable, entry.1.SolvesFor entry.2 := by
  -- A solver that speaks finds all values that it looks up.
  simp only [solvable, List.mem_cons, List.not_mem_nil, or_false, forall_eq_or_imp, forall_eq]
  refine ⟨?_, ?_, ?_, ?_, ?_, ?_⟩
  all_goals
    refine Table.solvesFor_ofSolvers _ (fun name member listed known others => ?_)
      fun name member unlisted => ?_
  all_goals cases name <;> simp_all

/-- Every solver of an orbit formula is silent or speaks. -/
theorem silent_or_speaks_of_mem_tables :
    ∀ table ∈ tables, ∀ name ∈ table.declared, table.Silent name ∨ table.Speaks name := by
  intro table listed name member
  obtain ⟨entry, found, rfl⟩ := List.mem_map.mp listed
  exact (solvesFor_of_mem_solvable entry found).silent_or_speaks member

end TwoBody.Orbit
