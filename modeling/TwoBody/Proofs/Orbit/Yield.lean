import TwoBody.Proofs.Orbit.Derivable

/-!
What the orbit formulas yield: each solver that is registered answers, and reads its formula alone.

A solver that looked up a variable of another formula would type-check and never answer, and its
formula would be retired for nothing. No orbit formula has such a solver.
-/

namespace TwoBody

open Std

variable {K V : Type} [Ord K] [TransOrd K]

/-- The only missing variable is declared, and has no value. -/
theorem declared_of_missing {declared : List K} {known : Bindings K V} {name : K}
    (only : missing declared known = [name]) : name ∈ declared ∧ name ∉ known := by
  have absent : name ∈ missing declared known := by rw [only]; exact List.mem_singleton_self name
  exact mem_missing.mp absent

namespace Table

/-- A solver is registered for the variable, so that the silent one was replaced. -/
def HasSolver (table : Table K V) (name : K) : Prop :=
  -- Only declared variables have an entry at all.
  ∃ solver, table.solvers[name]? = some solver ∧ solver ≠ Solver.silent

/-- The solver that answers for a variable is the one in the table. -/
theorem answer_eq_of_getElem? {table : Table K V} {name : K} {solver : Solver K V}
    (found : table.solvers[name]? = some solver) : table.answer name = solver := by
  funext known
  rw [answer, found, Option.bind_some]

/-- Exactly the declared variables without a registered solver have a silent one. -/
theorem hasSolver_iff {table : Table K V} {name : K} :
    table.HasSolver name ↔ name ∈ table.declared ∧ ¬ table.Silent name := by
  constructor
  · rintro ⟨solver, found, spoken⟩
    have present : name ∈ table.solvers := (ExtTreeMap.getElem?_eq_some_iff.mp found).1
    refine ⟨(table.covered name).mp present, fun silent => spoken ?_⟩
    -- A solver that never answers is the silent one.
    funext known
    exact (congrFun (answer_eq_of_getElem? found) known).symm.trans (silent known)
  · rintro ⟨member, speaks⟩
    have found := ExtTreeMap.getElem?_eq_some_getElem ((table.covered name).mpr member)
    refine ⟨_, found, fun same => speaks fun known => ?_⟩
    rw [answer_eq_of_getElem? found, same, Solver.silent]

/-- A formula yields for its only missing variable whatever the solver of that answers. -/
theorem exists_solve_iff {table : Table K V} {known : Bindings K V} {name : K} :
    (∃ value, table.solve known = some (name, value)) ↔
      missing table.declared known = [name] ∧ (table.answer name known).isSome := by
  rw [Option.isSome_iff_exists, ← exists_and_left]
  exact exists_congr fun value => solve_eq_some_iff

/-- Of the values known, a local formula reads those of its other declared variables. -/
theorem Local.answer_of_solve {table : Table K V} (reads : table.Local)
    {known other : Bindings K V} {name : K} {value : V}
    (yields : table.solve known = some (name, value))
    (agree : ∀ read ∈ table.declared, read ≠ name → known[read]? = other[read]?) :
    table.answer name other = some value := by
  obtain ⟨only, answered⟩ := solve_eq_some_iff.mp yields
  exact (reads name (declared_of_missing only).1 known other agree).symm.trans answered

/-- Bindings that agree on the other variables leave the same one missing. -/
theorem missing_eq_of_agree {declared : List K} {known other : Bindings K V} {name : K}
    (only : missing declared known = [name]) (absent : name ∉ other)
    (agree : ∀ read ∈ declared, read ≠ name → known[read]? = other[read]?) :
    missing declared other = [name] := by
  have unknown := (declared_of_missing only).2
  rw [← only]
  -- The two filters of the declared variables are compared one variable at a time.
  refine List.filter_congr fun read member => ?_
  by_cases same : read = name
  · simp [same, absent, unknown]
  · have alike : read ∈ other ↔ read ∈ known := by
      rw [ExtTreeMap.mem_iff_isSome_getElem?, ExtTreeMap.mem_iff_isSome_getElem?,
        agree read member same]
    simp [alike]

end Table

namespace Orbit

open Variable

/-- The variables of each entry are those with a registered solver. -/
theorem mem_solvable_iff_hasSolver : ∀ entry ∈ solvable, ∀ symbol,
    symbol ∈ entry.2 ↔ entry.1.HasSolver symbol := by
  intro entry listed symbol
  rw [mem_solvable_iff entry listed, Table.hasSolver_iff]
  refine and_congr_right fun member => ?_
  -- Each solver either speaks or is silent, but not both.
  constructor
  · exact fun speaks silent => Table.not_speaks_of_silent silent speaks
  · exact ((solvesFor_of_mem_solvable entry listed).silent_or_speaks member).resolve_left

/-- An orbit formula yields a value exactly if its only missing variable can be solved for. -/
theorem exists_solve_iff_of_mem_solvable {entry : Table Variable Float × List Variable}
    (listed : entry ∈ solvable) {known : Bindings Variable Float} {symbol : Variable} :
    (∃ value, entry.1.solve known = some (symbol, value)) ↔
      missing entry.1.declared known = [symbol] ∧ symbol ∈ entry.2 := by
  rw [Table.exists_solve_iff, mem_solvable_iff entry listed]
  refine and_congr_right fun only => ?_
  have member := (declared_of_missing only).1
  constructor
  · intro answered
    -- A silent solver would not have answered.
    refine ⟨member, ((solvesFor_of_mem_solvable entry listed).silent_or_speaks member).resolve_left
      fun silent => ?_⟩
    rw [silent known] at answered
    exact absurd answered (by simp)
  · rintro ⟨-, speaks⟩
    exact speaks known (Table.othersKnown_of_missing only)

/--
No solver of an orbit formula fails silently, and none reads outside its formula.

The orbit formulas are those of the table, with the variables that they have registered solvers for.
A formula yields a value exactly if one of these is its only missing variable, and the value is that
of this variable. It is decided by the other declared variables: any bindings that agree on them get
the same answer, and the formula yields it for all that lack the variable.
-/
theorem formulas_yield :
    formulas = solvable.map (fun entry => entry.1.toFormula) ∧
    ∀ entry ∈ solvable,
      (∀ symbol, symbol ∈ entry.2 ↔ entry.1.HasSolver symbol) ∧
      (∀ known symbol, (∃ value, entry.1.solve known = some (symbol, value)) ↔
        missing entry.1.declared known = [symbol] ∧ symbol ∈ entry.2) ∧
      ∀ (known other : Bindings Variable Float) (symbol : Variable) (value : Float),
        entry.1.solve known = some (symbol, value) →
        (∀ read ∈ entry.1.declared, read ≠ symbol → known[read]? = other[read]?) →
          entry.1.answer symbol other = some value ∧
          (symbol ∉ other → entry.1.solve other = some (symbol, value)) := by
  refine ⟨formulas_eq.trans List.map_map, fun entry listed =>
    ⟨mem_solvable_iff_hasSolver entry listed, fun known symbol =>
      exists_solve_iff_of_mem_solvable listed, ?_⟩⟩
  intro known other symbol value yields agree
  have reads := local_of_mem_tables entry.1 (List.mem_map_of_mem listed)
  have answered := reads.answer_of_solve yields agree
  refine ⟨answered, fun absent => Table.solve_eq_some_iff.mpr ⟨?_, answered⟩⟩
  exact Table.missing_eq_of_agree (Table.solve_eq_some_iff.mp yields).1 absent agree

/--
Kepler's law tells the central body, whatever else is known. The vis-viva equation has no solver for
an apsis radius, so it yields nothing although only that is missing.
-/
theorem formulas_yield_kepler :
    let known : Bindings Variable Float := .ofList [(semiMajorAxis, 2), (period, 3)]
    let other := known.insert eccentricity (0 / 0)
    (keplerThirdLaw, [semiMajorAxis, period, gm]) ∈ solvable ∧
    (visVivaPeriapsis, [periVelocity]) ∈ solvable ∧
    (∃ value, keplerThirdLaw.solve known = some (gm, value) ∧
      keplerThirdLaw.solve other = some (gm, value) ∧
      keplerThirdLaw.answer gm (other.insert gm 5) = some value) ∧
    ∀ value, visVivaPeriapsis.solve (.ofList [(gm, 1), (periVelocity, 2), (apoRadius, 3)]) ≠
      some (periRadius, value) := by
  intro known other
  have kepler : (keplerThirdLaw, [semiMajorAxis, period, gm]) ∈ solvable := by simp [solvable]
  have visViva : (visVivaPeriapsis, [periVelocity]) ∈ solvable := by simp [solvable]
  obtain ⟨-, yields, decided⟩ := formulas_yield.2 _ kepler
  obtain ⟨value, solved⟩ := (yields known gm).mpr (by decide +kernel)
  have agree : ∀ read ∈ keplerThirdLaw.declared, read ≠ gm → known[read]? = other[read]? := by
    decide +kernel
  have agreeAll : ∀ read ∈ keplerThirdLaw.declared, read ≠ gm →
      known[read]? = (other.insert gm 5)[read]? := by
    decide +kernel
  refine ⟨kepler, visViva, ⟨value, solved, (decided known other gm value solved agree).2
    (by decide +kernel), (decided known _ gm value solved agreeAll).1⟩, fun value yielded => ?_⟩
  -- The radius is missing, but no solver is registered for it.
  have listed := (((formulas_yield.2 _ visViva).2.1 _ periRadius).mp ⟨value, yielded⟩).2
  exact absurd listed (by decide)

end Orbit

end TwoBody
