import TwoBody.Proofs.Number.Counted
import TwoBody.Proofs.Orbit.Shape
import TwoBody.Proofs.System.Derivation
import TwoBody.Proofs.System.Translation

/-!
Consistency: the formulas between the shape and the size of an orbit never contradict each other.

Whatever values of one closed orbit are supplied, in whichever order, and however often a formula
is listed: in exact arithmetic each value that becomes known is that of the orbit. None of them is
computed with a division by zero, which the same run in counted numbers shows.
-/

namespace TwoBody.Orbit

open Variable

/-- The formulas between the shape and the size of an orbit. -/
inductive ShapeFormula where
  /-- The apsis radii add up to the major axis. -/
  | apsisSum
  /-- The periapsis radius from the semi-major axis and the eccentricity. -/
  | periapsis
  /-- The eccentricity from the ratio of the apsis radii. -/
  | apsisRatio

/-- The values that the shape of an orbit decides, with the variables that they belong to. -/
def shapeBindings (a e : Rat) : List (Variable × Rat) :=
  [(semiMajorAxis, a), (eccentricity, e), (periRadius, a * (1 - e)), (apoRadius, a * (1 + e))]

/-- A variable is bound to its value in the shape of the orbit if it is one of those decided. -/
theorem mem_map_shapeBindings {α : Type} {write : Rat → α} {a e : Rat} {name : Variable}
    {value : α} :
    (name, value) ∈ (shapeBindings a e).map (translated write) ↔
      name ∈ [semiMajorAxis, eccentricity, periRadius, apoRadius] ∧
        value = write (shape a e name) := by
  -- Each variable has one binding at most, so its value can be looked up.
  cases name <;> simp [shapeBindings, translated, shape, eq_comm]

namespace ShapeFormula

section Numbers

variable {α : Type} [Add α] [Sub α] [Mul α] [Div α] [OfNat α 1] [OfNat α 2]

/-- The solvers of the formula, over any numbers. -/
def table : ShapeFormula → Table Variable α
  | apsisSum => Orbit.apsisSum
  | periapsis => Orbit.periapsis
  | apsisRatio => Orbit.apsisRatio

/-- The system of such formulas in which nothing is known. -/
def system (formulas : List ShapeFormula) : System Variable α :=
  .ofFormulas (formulas.map fun formula => formula.table.toFormula)

/-- The formulas relate only variables whose values the shape decides. -/
theorem declared_subset (formula : ShapeFormula) :
    (formula.table : Table Variable α).declared ⊆
      [semiMajorAxis, eccentricity, periRadius, apoRadius] := by
  cases formula <;> simp [table, Orbit.apsisSum, Orbit.periapsis, Orbit.apsisRatio, Table.ofSolvers]

variable {write : Rat → α} (precise : ExactArithmetic write)

include precise

/-- In exact arithmetic all of the formulas are faithful to the shape of a closed orbit. -/
theorem faithful_table {a e : Rat} (positive : 0 < a) (nonnegative : 0 ≤ e) (closed : e < 1)
    (formula : ShapeFormula) :
    (formula.table : Table Variable α).Faithful fun name => write (shape a e name) := by
  cases formula with
  | apsisSum => exact precise.faithful_apsisSum a e
  | periapsis => exact precise.faithful_periapsis positive closed
  | apsisRatio => exact precise.faithful_apsisRatio positive nonnegative closed

/-- Asked about values of a closed orbit, the formulas yield only values of this orbit. -/
theorem keeps_table {a e : Rat} (positive : 0 < a) (nonnegative : 0 ≤ e) (closed : e < 1)
    (formula : ShapeFormula) :
    (formula.table : Table Variable α).toFormula.Keeps
      fun binding => binding ∈ (shapeBindings a e).map (translated write) := by
  intro known each binding yields
  -- All that is known is a value of the orbit, and so the true one.
  have agree : known.Agree fun name => write (shape a e name) :=
    fun name value found => (mem_map_shapeBindings.mp (each name value found)).2
  -- The formula is faithful, so it yields the value that the variable has in the orbit.
  have told := (faithful_table precise positive nonnegative closed formula).eq_of_solve agree yields
  exact mem_map_shapeBindings.mpr ⟨formula.declared_subset told.1, told.2⟩

/-- A system of these formulas upholds the values of a closed orbit. -/
theorem upholds_system {a e : Rat} (positive : 0 < a) (nonnegative : 0 ≤ e) (closed : e < 1)
    (formulas : List ShapeFormula) :
    (system formulas : System Variable α).Upholds
      fun binding => binding ∈ (shapeBindings a e).map (translated write) :=
  System.upholds_ofFormulas (List.forall_mem_map.mpr fun formula _ =>
    keeps_table precise positive nonnegative closed formula)

end Numbers

/-- Counting the divisions by zero changes nothing that the formulas do. -/
theorem translates_table (formula : ShapeFormula) :
    (formula.table : Table Variable Counted).toFormula.Translates Counted.value
      (formula.table : Table Variable Rat).toFormula := by
  -- Each solver reads two values, and the numbers compute with them alike.
  cases formula with
  | apsisSum =>
    refine Table.translates_ofSolvers _ fun name member {known seen} same => ?_
    simp only [List.mem_cons, List.not_mem_nil, or_false] at member
    rcases member with rfl | rfl | rfl
    · exact same.solve_two apoRadius periRadius fun _ _ => by simp
    · exact same.solve_two semiMajorAxis periRadius fun _ _ => by simp
    · exact same.solve_two semiMajorAxis apoRadius fun _ _ => by simp
  | periapsis =>
    refine Table.translates_ofSolvers _ fun name member {known seen} same => ?_
    simp only [List.mem_cons, List.not_mem_nil, or_false] at member
    rcases member with rfl | rfl | rfl
    · exact same.solve_two semiMajorAxis eccentricity fun _ _ => by simp
    · exact same.solve_two periRadius eccentricity fun _ _ => by simp
    · exact same.solve_two periRadius semiMajorAxis fun _ _ => by simp
  | apsisRatio =>
    refine Table.translates_ofSolvers _ fun name member {known seen} same => ?_
    simp only [List.mem_cons, List.not_mem_nil, or_false] at member
    rcases member with rfl | rfl | rfl
    · exact same.solve_two apoRadius periRadius fun _ _ => by simp
    · exact same.solve_two eccentricity periRadius fun _ _ => by simp
    · exact same.solve_two eccentricity apoRadius fun _ _ => by simp

/-- Counting the divisions by zero changes nothing that systems of these formulas do. -/
theorem translates_system (formulas : List ShapeFormula) :
    (system formulas : System Variable Counted).Translates Counted.value
      (system formulas : System Variable Rat) := by
  refine System.translates_ofFormulas ?_
  -- The two systems list the same formulas, so these are compared one by one.
  rw [List.forall₂_map_left_iff, List.forall₂_map_right_iff, List.forall₂_same]
  exact fun formula _ => translates_table formula

end ShapeFormula

/-- Counted numbers are exact, and count nothing where no zero is divided by. -/
theorem exactArithmetic_given : ExactArithmetic Counted.given where
  one := rfl
  two := rfl
  add _ _ := rfl
  sub _ _ := rfl
  mul _ _ := rfl
  div left right apart := by
    -- The divisor is not zero, so the quotient counts nothing either.
    change Counted.mk (left / right) (0 + 0 + if right = 0 then 1 else 0) = .given (left / right)
    rw [if_neg apart]
    rfl

/--
The formulas of the shape agree on each value of a closed orbit, and never divide by zero.

The run may list the formulas in any order and more than once, and supply the values of the orbit in
any order. All that is known after it, and all that is derived on the way, are values of this orbit.
The same run in counted numbers comes to know the same values and derives them in the same passes,
none of them by way of a division by zero.
-/
theorem shape_run_consistent {a e : Rat} (positive : 0 < a) (nonnegative : 0 ≤ e) (closed : e < 1)
    (formulas : List ShapeFormula) {additions : List (List (Variable × Rat))}
    (supplies : ∀ supplied ∈ additions, supplied ⊆ shapeBindings a e) :
    let plain : System Variable Rat := ShapeFormula.system formulas
    let counted : System Variable Counted := ShapeFormula.system formulas
    let countedAdditions := additions.map (List.map (translated Counted.given))
    (∀ name value, (plain.run additions).known[name]? = some value →
      (name, value) ∈ shapeBindings a e) ∧
    (∀ pass ∈ plain.passesAlong additions, pass.derived ⊆ shapeBindings a e) ∧
    (∀ name : Variable, (plain.run additions).known[name]? =
      (counted.run countedAdditions).known[name]?.map Counted.value) ∧
    (plain.passesAlong additions).map Pass.derived =
      (counted.passesAlong countedAdditions).map
        (fun pass => pass.derived.map (translated Counted.value)) ∧
    ∀ pass ∈ counted.passesAlong countedAdditions, ∀ binding ∈ pass.derived,
      binding.2.zeroDivisions = 0 := by
  intro plain counted countedAdditions
  have upholds :=
    ShapeFormula.upholds_system exactArithmetic_id positive nonnegative closed formulas
  have counts :=
    ShapeFormula.upholds_system exactArithmetic_given positive nonnegative closed formulas
  -- Plain numbers are those that are given, without their counts.
  have unwritten : (shapeBindings a e).map (translated id) = shapeBindings a e := List.map_id _
  rw [unwritten] at upholds
  have given : ∀ supplied ∈ countedAdditions, ∀ binding ∈ supplied,
      binding ∈ (shapeBindings a e).map (translated Counted.given) :=
    List.forall_mem_map.mpr fun supplied member =>
      List.map_subset (translated Counted.given) (supplies supplied member)
  -- Taking the counts away again leaves the additions as they were.
  have forget : translated Counted.value ∘ translated Counted.given =
      (id : Variable × Rat → Variable × Rat) := rfl
  have back : countedAdditions.map (List.map (translated Counted.value)) = additions := by
    simp only [countedAdditions, List.map_map, List.map_comp_map, forget, List.map_id_fun,
      List.map_id]
  have same : counted.Translates Counted.value plain := ShapeFormula.translates_system formulas
  have known := (same.run countedAdditions).known
  have derived := same.map_derived_passesAlong countedAdditions
  rw [back] at known derived
  refine ⟨(upholds.run supplies).each, upholds.forall_mem_passesAlong supplies, known, derived, ?_⟩
  intro pass member binding yielded
  -- A counted value of the orbit is one that was given.
  have shaped := counts.forall_mem_passesAlong given pass member binding yielded
  obtain ⟨original, _, rfl⟩ := List.mem_map.mp shaped
  rfl

/-- From two of the values, supplied one after the other, the formulas find the other two. -/
theorem shape_run_consistent_apoapsis :
    let formulas : List ShapeFormula := [.apsisRatio, .periapsis, .apsisRatio, .apsisSum]
    let additions : List (List (Variable × Rat)) :=
      [[(apoRadius, 6)], [(eccentricity, 1 / 2), (apoRadius, 6)]]
    let plain : System Variable Rat := ShapeFormula.system formulas
    let counted : System Variable Counted := ShapeFormula.system formulas
    let countedAdditions := additions.map (List.map (translated Counted.given))
    (plain.passesAlong additions).map Pass.derived =
      [[], [(periRadius, 2), (semiMajorAxis, 4)], []] ∧
    (∀ supplied ∈ additions, supplied ⊆ shapeBindings 4 (1 / 2)) ∧
    (∀ name value, (plain.run additions).known[name]? = some value →
      (name, value) ∈ shapeBindings 4 (1 / 2)) ∧
    (∀ pass ∈ plain.passesAlong additions, pass.derived ⊆ shapeBindings 4 (1 / 2)) ∧
    (∀ name : Variable, (plain.run additions).known[name]? =
      (counted.run countedAdditions).known[name]?.map Counted.value) ∧
    (plain.passesAlong additions).map Pass.derived =
      (counted.passesAlong countedAdditions).map
        (fun pass => pass.derived.map (translated Counted.value)) ∧
    ∀ pass ∈ counted.passesAlong countedAdditions, ∀ binding ∈ pass.derived,
      binding.2.zeroDivisions = 0 := by
  intro formulas additions plain counted countedAdditions
  have supplies : ∀ supplied ∈ additions, supplied ⊆ shapeBindings 4 (1 / 2) := by decide +kernel
  exact ⟨by decide +kernel, supplies,
    shape_run_consistent (by norm_num) (by norm_num) (by norm_num) formulas supplies⟩

/-- The orbit has to be closed: with eccentricity one, its axis takes a division by zero. -/
example :
    let parabola : List (Variable × Counted) := [(periRadius, 1), (eccentricity, 1)]
    let system : System Variable Counted := ShapeFormula.system [.periapsis]
    (system.add parabola).known[semiMajorAxis]?.map Counted.zeroDivisions = some 1 := by
  decide +kernel

end TwoBody.Orbit
