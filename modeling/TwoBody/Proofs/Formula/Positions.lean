import TwoBody.Proofs.Formula.Answer

/-!
Positions: a formula yields a value exactly if a single position of it lacks one.

A variable that is declared twice has two positions, and counts twice as long as it is missing. To
say which solvers are consulted, the formula is asked once more with a record of them, which leaves
what it yields as it is.
-/

namespace TwoBody

open Std

variable {K V : Type} [Ord K] [TransOrd K]

/-- The position of a declared list holds a variable without a known value. -/
def MissingAt (declared : List K) (known : Bindings K V) (place : Nat) : Prop :=
  -- Behind the end of the list there is no variable that could be missing.
  ∃ name, declared[place]? = some name ∧ name ∉ known

/-- This is the only position of a declared list with a missing variable. -/
def OnlyMissingAt (declared : List K) (known : Bindings K V) (place : Nat) : Prop :=
  -- The same variable at another position would be another one.
  ∀ other, MissingAt declared known other ↔ other = place

/-- Every position in front of the only missing one, or behind it, holds a known variable. -/
theorem OnlyMissingAt.mem_of_ne {declared : List K} {known : Bindings K V} {place other : Nat}
    (only : OnlyMissingAt declared known place) (different : other ≠ place) {name : K}
    (found : declared[other]? = some name) : name ∈ known := by
  by_contra unknown
  -- Otherwise a variable would be missing there, too.
  exact different ((only other).mp ⟨name, found, unknown⟩)

/-- A single variable is missing if it is so at a single position. -/
theorem OnlyMissingAt.missing_eq {declared : List K} {known : Bindings K V} {place : Nat}
    (only : OnlyMissingAt declared known place) {name : K} (found : declared[place]? = some name) :
    missing declared known = [name] := by
  obtain ⟨within, here⟩ := List.getElem?_eq_some_iff.mp found
  have split : declared = declared.take place ++ name :: declared.drop (place + 1) := by
    rw [← here]
    simp
  apply List.filter_eq_cons_iff.mpr
  refine ⟨declared.take place, declared.drop (place + 1), split, ?_, ?_, ?_⟩
  · -- The variables in front of it are known.
    intro earlier member
    obtain ⟨other, bound, same⟩ := List.mem_take_iff_getElem.mp member
    have inside : other < declared.length := by omega
    have known := only.mem_of_ne (by omega) (List.getElem?_eq_some_iff.mpr ⟨inside, same⟩)
    simpa using known
  · obtain ⟨lacking, same, unknown⟩ := (only place).mpr rfl
    rw [Option.some.inj (found.symm.trans same)]
    simpa using unknown
  · -- So are those behind it.
    apply List.filter_eq_nil_iff.mpr
    intro later member
    obtain ⟨other, bound, same⟩ := List.mem_drop_iff_getElem.mp member
    have inside : place + 1 + other < declared.length := by omega
    have known := only.mem_of_ne (by omega) (List.getElem?_eq_some_iff.mpr ⟨inside, same⟩)
    simpa using known

/-- If a single variable is missing, it is so at a single position. -/
theorem exists_onlyMissingAt {declared : List K} {known : Bindings K V} {name : K}
    (only : missing declared known = [name]) :
    ∃ place, OnlyMissingAt declared known place ∧ declared[place]? = some name := by
  obtain ⟨front, back, split, dropped, kept, rest⟩ := List.filter_eq_cons_iff.mp only
  have here : declared[front.length]? = some name := by simp [split]
  refine ⟨front.length, ?_, here⟩
  intro other
  constructor
  · rintro ⟨lacking, found, unknown⟩
    rw [split] at found
    -- A missing variable is neither in front of this one nor behind it.
    rcases Nat.lt_trichotomy other front.length with before | same | after
    · rw [List.getElem?_append_left before] at found
      exact absurd (by simpa using unknown) (dropped lacking (List.mem_of_getElem? found))
    · exact same
    · have next : other - front.length = (other - front.length - 1) + 1 := by omega
      rw [List.getElem?_append_right (by omega), next, List.getElem?_cons_succ] at found
      have known := List.filter_eq_nil_iff.mp rest lacking (List.mem_of_getElem? found)
      exact absurd (by simpa using unknown) known
  · rintro rfl
    exact ⟨name, here, by simpa using kept⟩

/-- The missing variables are a single one exactly if a single position lacks its variable. -/
theorem missing_eq_singleton_iff {declared : List K} {known : Bindings K V} {name : K} :
    missing declared known = [name] ↔
      ∃ place, OnlyMissingAt declared known place ∧ declared[place]? = some name := by
  constructor
  · exact exists_onlyMissingAt
  · rintro ⟨place, only, found⟩
    exact only.missing_eq found

namespace Table

/-- How a formula is asked for a value, where consulting one of its solvers may have effects. -/
def solveWith {m : Type → Type} [Monad m] (table : Table K V) (known : Bindings K V)
    (consult : K → Solver K V → m (Option V)) : m (Option (K × V)) :=
  if atMostOneMissing table.declared known then
    match lastMissing? table.declared known with
    | none => pure none
    | some name =>
      -- Only here is there anything to consult.
      match table.solvers[name]? with
      | none => pure none
      | some solver => do
        let value ← consult name solver
        return value.map fun value => (name, value)
  else pure none

/-- A solver is consulted about the known bindings, and its variable put on record. -/
def onRecord (known : Bindings K V) (name : K) (solver : Solver K V) :
    StateM (List K) (Option V) := do
  modify fun names => names ++ [name]
  return solver known

/-- What a formula yields, with the variables whose solvers are consulted for it, in order. -/
def recorded (table : Table K V) (known : Bindings K V) : Option (K × V) × List K :=
  (table.solveWith known (onRecord known)).run []

section Effects

variable {m : Type → Type} [Monad m] {table : Table K V} {known : Bindings K V}

/-- For a single missing variable its own solver is consulted, once. -/
theorem solveWith_of_missing (consult : K → Solver K V → m (Option V)) {name : K}
    {solver : Solver K V} (only : missing table.declared known = [name])
    (found : table.solvers[name]? = some solver) :
    table.solveWith known consult = do
      let value ← consult name solver
      return value.map fun value => (name, value) := by
  -- The formula is ready, and this variable is the last missing one.
  have few : atMostOneMissing table.declared known = true := by simp [atMostOneMissing, only]
  have last : lastMissing? table.declared known = some name := by simp [lastMissing?, only]
  simp only [solveWith, if_pos few, last, found]

/-- Without a missing variable, or with several of them, no solver is consulted. -/
theorem solveWith_of_length_ne_one (consult : K → Solver K V → m (Option V))
    (other : (missing table.declared known).length ≠ 1) :
    table.solveWith known consult = pure none := by
  unfold solveWith
  by_cases few : atMostOneMissing table.declared known = true
  · -- At most one but not one is none, so there is no variable to ask for.
    have short : (missing table.declared known).length ≤ 1 := by
      simpa [atMostOneMissing] using few
    have empty : missing table.declared known = [] := List.length_eq_zero_iff.mp (by omega)
    have last : lastMissing? table.declared known = none := by simp [lastMissing?, empty]
    rw [if_pos few, last]
  · rw [if_neg few]

end Effects

variable {table : Table K V} {known : Bindings K V}

/-- With a single missing variable, the record is of its solver, and has what this answers. -/
theorem recorded_of_missing {name : K} {solver : Solver K V}
    (only : missing table.declared known = [name]) (found : table.solvers[name]? = some solver) :
    table.recorded known = ((solver known).map fun value => (name, value), [name]) := by
  unfold recorded
  rw [solveWith_of_missing _ only found]
  rfl

/-- In all other cases nothing is yielded and nothing is recorded. -/
theorem recorded_of_length_ne_one (other : (missing table.declared known).length ≠ 1) :
    table.recorded known = (none, []) := by
  unfold recorded
  rw [solveWith_of_length_ne_one _ other]
  rfl

/-- The variable that is the only missing one has a solver. -/
theorem exists_solver_of_missing {name : K} (only : missing table.declared known = [name]) :
    ∃ solver, table.solvers[name]? = some solver := by
  -- A missing variable is declared, and the table has an entry for it.
  have absent : name ∈ missing table.declared known := by simp [only]
  have present : name ∈ table.solvers := (table.covered name).mpr (mem_missing.mp absent).1
  exact ⟨_, ExtTreeMap.getElem?_eq_some_getElem present⟩

/-- A formula yields the same with the record as without it. -/
theorem fst_recorded (table : Table K V) (known : Bindings K V) :
    (table.recorded known).1 = table.solve known := by
  by_cases single : (missing table.declared known).length = 1
  · obtain ⟨name, only⟩ := List.length_eq_one_iff.mp single
    obtain ⟨solver, found⟩ := exists_solver_of_missing only
    rw [recorded_of_missing only found, solve_of_missing only, answer, found, Option.bind_some]
  · rw [recorded_of_length_ne_one single, solve_of_length_ne_one single]

/-- Where no position is the only missing one, nothing is yielded and no solver is consulted. -/
theorem recorded_of_not_only (none : ∀ place, ¬ OnlyMissingAt table.declared known place) :
    table.recorded known = (Option.none, []) := by
  apply recorded_of_length_ne_one
  intro single
  obtain ⟨name, only⟩ := List.length_eq_one_iff.mp single
  obtain ⟨place, onlyHere, -⟩ := exists_onlyMissingAt only
  exact none place onlyHere

/--
A formula yields a value exactly for the variable at the only position that lacks one.

Its solver is then the only one that is consulted, and the value is what this answers. Without such
a position nothing is yielded and no solver is consulted: either all variables are known, or there
are two positions with missing variables, be it the same variable twice. The record of the solvers
that are consulted changes nothing about what is yielded.
-/
theorem solve_positions (table : Table K V) (known : Bindings K V) :
    (∀ name value, table.solve known = some (name, value) ↔
      ∃ place solver, OnlyMissingAt table.declared known place ∧
        table.declared[place]? = some name ∧ table.solvers[name]? = some solver ∧
        solver known = some value) ∧
    (table.recorded known).1 = table.solve known ∧
    (∀ place name solver, OnlyMissingAt table.declared known place →
      table.declared[place]? = some name → table.solvers[name]? = some solver →
        table.recorded known = ((solver known).map fun value => (name, value), [name])) ∧
    ((∀ place, ¬ MissingAt table.declared known place) → table.recorded known = (none, [])) ∧
    ∀ first second, first ≠ second → MissingAt table.declared known first →
      MissingAt table.declared known second → table.recorded known = (none, []) := by
  refine ⟨?_, fst_recorded table known, ?_, ?_, ?_⟩
  · intro name value
    rw [solve_eq_some_iff, missing_eq_singleton_iff]
    constructor
    · rintro ⟨⟨place, only, here⟩, answered⟩
      obtain ⟨solver, found, told⟩ := Option.bind_eq_some_iff.mp answered
      exact ⟨place, solver, only, here, found, told⟩
    · rintro ⟨place, solver, only, here, found, told⟩
      refine ⟨⟨place, only, here⟩, ?_⟩
      rw [answer, found, Option.bind_some, told]
  · intro place name solver only here found
    exact recorded_of_missing (only.missing_eq here) found
  · intro complete
    apply recorded_of_not_only
    intro place only
    -- The only missing position would be one.
    exact complete place ((only place).mpr rfl)
  · intro first second different missingFirst missingSecond
    apply recorded_of_not_only
    intro place only
    -- Both positions would be the only one.
    exact different (((only first).mp missingFirst).trans ((only second).mp missingSecond).symm)

/--
The same variable at two positions counts twice.

The formula cannot be asked for the variable that it declares twice, although no other is missing.
It can be asked for the one that it declares once.
-/
theorem solve_positions_repeated :
    let copy : Nat → Solver Nat Nat := fun name known => known[11 - name]?
    let table := ofSolvers [5, 5, 6] (by simp) copy
    let six : Bindings Nat Nat := .ofList [(6, 60)]
    let five : Bindings Nat Nat := .ofList [(5, 50)]
    (MissingAt table.declared six 0 ∧ MissingAt table.declared six 1 ∧
      table.recorded six = (none, [])) ∧
    (OnlyMissingAt table.declared five 2 ∧ table.solve five = some (6, 50) ∧
      table.recorded five = (some (6, 50), [6])) ∧
    (∀ place, ¬ MissingAt table.declared (five.insert 6 60) place) ∧
    table.recorded (five.insert 6 60) = (none, []) := by
  intro copy table six five
  obtain ⟨-, -, -, -, twice⟩ := solve_positions table six
  obtain ⟨yields, -, once, -, -⟩ := solve_positions table five
  obtain ⟨-, -, -, complete, -⟩ := solve_positions table (five.insert 6 60)
  have first : MissingAt table.declared six 0 := ⟨5, rfl, by decide +kernel⟩
  have second : MissingAt table.declared six 1 := ⟨5, rfl, by decide +kernel⟩
  have unknown : 6 ∉ five := by decide +kernel
  have known : 5 ∈ five := by decide +kernel
  have only : OnlyMissingAt table.declared five 2 := by
    intro place
    match place with
    | 0 => simp [MissingAt, table, ofSolvers, known]
    | 1 => simp [MissingAt, table, ofSolvers, known]
    | 2 => simp [MissingAt, table, ofSolvers, unknown]
    | _ + 3 => simp [MissingAt, table, ofSolvers]
  have every : ∀ name ∈ table.declared, name ∈ five.insert 6 60 := by decide +kernel
  have all : ∀ place, ¬ MissingAt table.declared (five.insert 6 60) place := by
    intro place lacking
    obtain ⟨name, here, unknown⟩ := lacking
    exact unknown (every name (List.mem_of_getElem? here))
  have found : table.solvers[6]? = some (copy 6) := getElem?_tabulate copy (by simp)
  have value : copy 6 five = some 50 := by decide +kernel
  refine ⟨⟨first, second, twice 0 1 (by simp) first second⟩, ⟨only, ?_, ?_⟩, all, complete all⟩
  · exact (yields 6 50).mpr ⟨2, copy 6, only, rfl, found, value⟩
  · rw [once 2 6 (copy 6) only rfl found, value]
    rfl

end Table

end TwoBody
