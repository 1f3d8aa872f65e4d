import TwoBody.Formula.Table
import TwoBody.Proofs.Formula.Readiness

/-! Answers: what a tabulated formula yields, in terms of the one solver that it asks. -/

namespace TwoBody.Table

open Std

variable {K V : Type} [Ord K] [TransOrd K]

/-- What the solver of a variable answers to the known bindings; nothing without a solver. -/
def answer (table : Table K V) (name : K) (known : Bindings K V) : Option V :=
  -- Variables outside the table have no solver that could answer.
  table.solvers[name]?.bind fun solver => solver known

/-- A tabulated formula is ready when at most one of its variables is missing. -/
theorem standard (table : Table K V) : table.toFormula.Standard := rfl

/-- All formulas of a system of tabulated formulas are so. -/
theorem forall_standard (tables : List (Table K V)) :
    ∀ formula ∈ tables.map Table.toFormula, formula.Standard :=
  List.forall_mem_map.mpr fun table _ => table.standard

/-- Where only one variable is missing, a tabulated formula yields the answer for it. -/
theorem solve_of_missing {table : Table K V} {known : Bindings K V} {name : K}
    (only : missing table.declared known = [name]) :
    table.solve known = (table.answer name known).map fun value => (name, value) := by
  -- The formula is ready, and the variable is the last one that is missing.
  have few : atMostOneMissing table.declared known = true := by simp [atMostOneMissing, only]
  have last : lastMissing? table.declared known = some name := by simp [lastMissing?, only]
  have present : name ∈ table.solvers := (table.covered name).mpr (mem_of_lastMissing? last)
  unfold solve
  rw [if_pos few]
  split
  · rename_i complete
    exact absurd (complete.symm.trans last) (by simp)
  · -- The solver that is asked is the one of this variable.
    rename_i asked found
    have same : asked = name := Option.some.inj (found.symm.trans last)
    subst same
    simp [answer, ExtTreeMap.getElem?_eq_some_getElem present]

/-- Where no variable is missing, or several of them, a tabulated formula yields nothing. -/
theorem solve_of_length_ne_one {table : Table K V} {known : Bindings K V}
    (other : (missing table.declared known).length ≠ 1) : table.solve known = none := by
  unfold solve
  by_cases few : atMostOneMissing table.declared known = true
  · -- At most one but not one is none, so there is no last one to ask for.
    have short : (missing table.declared known).length ≤ 1 := by
      simpa [atMostOneMissing] using few
    have none : missing table.declared known = [] := List.length_eq_zero_iff.mp (by omega)
    rw [if_pos few]
    split
    · rfl
    · rename_i asked found
      exact absurd found (by simp [lastMissing?, none])
  · rw [if_neg few]

/-- A tabulated formula yields the answer for its only missing variable, and nothing else. -/
theorem solve_eq_some_iff {table : Table K V} {known : Bindings K V} {name : K} {value : V} :
    table.solve known = some (name, value) ↔
      missing table.declared known = [name] ∧ table.answer name known = some value := by
  by_cases single : (missing table.declared known).length = 1
  · -- The only missing variable is the one whose solver is asked.
    obtain ⟨asked, only⟩ := List.length_eq_one_iff.mp single
    rw [solve_of_missing only, only]
    simp only [Option.map_eq_some_iff, Prod.mk.injEq, List.cons.injEq, and_true]
    constructor
    · rintro ⟨_, answered, rfl, rfl⟩
      exact ⟨rfl, answered⟩
    · rintro ⟨rfl, answered⟩
      exact ⟨value, answered, rfl, rfl⟩
  · -- Otherwise nothing is yielded, and no variable is the only one.
    rw [solve_of_length_ne_one single]
    constructor
    · intro impossible
      exact absurd impossible (by simp)
    · rintro ⟨only, _⟩
      exact absurd (by rw [only]; rfl) single

/-- A formula yields nothing if there is no answer for a variable that is the only missing one. -/
theorem solve_eq_none_of_answer {table : Table K V} {known : Bindings K V}
    (silent : ∀ name, missing table.declared known = [name] → table.answer name known = none) :
    table.solve known = none := by
  -- A value would be the answer for the only missing variable.
  cases yields : table.solve known with
  | none => rfl
  | some binding =>
    obtain ⟨only, answered⟩ := solve_eq_some_iff.mp yields
    simp [silent binding.1 only] at answered

/-- A tabulated formula only yields a value for a variable that has none. -/
theorem not_mem_of_solve {table : Table K V} {known : Bindings K V} {name : K} {value : V}
    (yields : table.solve known = some (name, value)) : name ∉ known := by
  -- The variable it yields a value for is the missing one.
  have absent : name ∈ missing table.declared known := by
    simp [(solve_eq_some_iff.mp yields).1]
  exact (mem_missing.mp absent).2

/-- A tabulated table holds for each listed variable the solver that it was given. -/
theorem getElem?_tabulate [LawfulEqOrd K] {declared : List K} (solver : K → Solver K V) {name : K}
    (member : name ∈ declared) : (tabulate declared solver)[name]? = some (solver name) := by
  -- Later entries of the same name are the same, so it does not matter which of them is last.
  have general : ∀ table : ExtTreeMap K (Solver K V) compare,
      table[name]? = some (solver name) ∨ name ∈ declared →
        (declared.foldl (fun table name => table.insert name (solver name)) table)[name]? =
          some (solver name) := by
    clear member
    induction declared with
    | nil =>
      -- Nothing is left to insert, so the entry is already there.
      intro table either
      simpa using either
    | cons head rest ih =>
      intro table either
      apply ih
      rw [ExtTreeMap.getElem?_insert]
      split
      · -- The entry that is written now is the one in question.
        rename_i same
        exact Or.inl (by rw [LawfulEqCmp.compare_eq_iff_eq.mp same])
      · -- Otherwise the entry was there before or is still to come.
        rename_i different
        rcases either with found | member
        · exact Or.inl found
        · rcases List.mem_cons.mp member with rfl | member
          · exact absurd ReflCmp.compare_self different
          · exact Or.inr member
  exact general ∅ (Or.inr member)

/-- The solvers of a formula answer as they were given. -/
theorem answer_ofSolvers [LawfulEqOrd K] {declared : List K} (nonempty : declared ≠ [])
    (solver : K → Solver K V) {name : K} (member : name ∈ declared) :
    (ofSolvers declared nonempty solver).answer name = solver name := by
  funext known
  -- The table holds the very solver that was given.
  have found : (ofSolvers declared nonempty solver).solvers[name]? = some (solver name) :=
    getElem?_tabulate solver member
  simp [answer, found]

/-- Every declared variable but the given one has a value. -/
def OthersKnown (table : Table K V) (name : K) (known : Bindings K V) : Prop :=
  -- The given variable may be known or not.
  ∀ other ∈ table.declared, other ≠ name → other ∈ known

/-- Where only one variable is missing, all others are known. -/
theorem othersKnown_of_missing {table : Table K V} {known : Bindings K V} {name : K}
    (only : missing table.declared known = [name]) : table.OthersKnown name known := by
  intro other member different
  by_cases present : other ∈ known
  · exact present
  · -- Another variable without a value would be missing too.
    have absent : other ∈ missing table.declared known := mem_missing.mpr ⟨member, present⟩
    exact absurd (by simpa [only] using absent) different

/-- The solver of the variable never yields a value. -/
def Silent (table : Table K V) (name : K) : Prop :=
  -- It does not matter what is known.
  ∀ known, table.answer name known = none

/-- The solver of the variable yields a value whenever all other variables are known. -/
def Speaks (table : Table K V) (name : K) : Prop :=
  -- It does not matter which values they have.
  ∀ known, table.OthersKnown name known → (table.answer name known).isSome

/-- The solver of each variable reads nothing but the other declared variables. -/
def Local (table : Table K V) : Prop :=
  -- Bindings that agree on those variables get the same answer.
  ∀ name ∈ table.declared, ∀ known other : Bindings K V,
    (∀ read ∈ table.declared, read ≠ name → known[read]? = other[read]?) →
      table.answer name known = table.answer name other

/-- Solvers that read nothing but the other variables make a local formula. -/
theorem local_ofSolvers [LawfulEqOrd K] {declared : List K} (nonempty : declared ≠ [])
    {solver : K → Solver K V}
    (reads : ∀ name ∈ declared, ∀ known other : Bindings K V,
      (∀ read ∈ declared, read ≠ name → known[read]? = other[read]?) →
        solver name known = solver name other) :
    (ofSolvers declared nonempty solver).Local := by
  -- The answer is what the given solver makes of the bindings.
  intro name member known other agree
  rw [answer_ofSolvers nonempty solver member]
  exact reads name member known other agree

/-- The solvers of the listed variables speak, and those of all others are silent. -/
structure SolvesFor (table : Table K V) (solvable : List K) : Prop where
  /-- The formula can be solved for each listed variable that it declares. -/
  speaks : ∀ name ∈ table.declared, name ∈ solvable → table.Speaks name
  /-- It cannot be solved for any other variable. -/
  silent : ∀ name ∈ table.declared, name ∉ solvable → table.Silent name

/-- What the given solvers yield decides which variables a formula can be solved for. -/
theorem solvesFor_ofSolvers [LawfulEqOrd K] {declared : List K} (nonempty : declared ≠ [])
    {solver : K → Solver K V} {solvable : List K}
    (speaks : ∀ name ∈ declared, name ∈ solvable → ∀ known : Bindings K V,
      (∀ other ∈ declared, other ≠ name → other ∈ known) → (solver name known).isSome)
    (silent : ∀ name ∈ declared, name ∉ solvable → solver name = Solver.silent) :
    (ofSolvers declared nonempty solver).SolvesFor solvable where
  speaks name member listed known others := by
    rw [answer_ofSolvers nonempty solver member]
    exact speaks name member listed known others
  silent name member unlisted known := by
    rw [answer_ofSolvers nonempty solver member, silent name member unlisted]
    rfl

/-- Every solver of such a formula is silent or speaks. -/
theorem SolvesFor.silent_or_speaks {table : Table K V} {solvable : List K}
    (solves : table.SolvesFor solvable) {name : K} (member : name ∈ table.declared) :
    table.Silent name ∨ table.Speaks name := by
  -- Whether it is listed decides which of the two it is.
  by_cases listed : name ∈ solvable
  · exact Or.inr (solves.speaks name member listed)
  · exact Or.inl (solves.silent name member listed)

end TwoBody.Table
