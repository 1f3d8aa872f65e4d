import TwoBody.Proofs.Formula.Answer

/-! Faithfulness: solvers that tell the true value of a variable from those of the others. -/

namespace TwoBody

open Std

variable {K V : Type} [Ord K] [TransOrd K]

/-- Every known value is the true one. -/
def Bindings.Agree (truth : K → V) (known : Bindings K V) : Prop :=
  -- Variables may be unknown.
  ∀ (name : K) (value : V), known[name]? = some value → value = truth name

/-- A known variable has its true value. -/
theorem Bindings.Agree.getElem?_eq {truth : K → V} {known : Bindings K V}
    (agree : known.Agree truth) {name : K} (member : name ∈ known) :
    known[name]? = some (truth name) := by
  -- It has some value, and every known value is true.
  have found := ExtTreeMap.getElem?_eq_some_getElem (t := known) member
  rw [found, agree name known[name] found]

/-- Bindings with the same variables and true values are the same. -/
theorem Bindings.Agree.eq [LawfulEqOrd K] {truth : K → V} {left right : Bindings K V}
    (leftAgree : left.Agree truth) (rightAgree : right.Agree truth)
    (same : ∀ name, name ∈ left ↔ name ∈ right) : left = right := by
  -- They are compared one variable at a time.
  refine ExtTreeMap.ext_getElem? fun name => ?_
  by_cases member : name ∈ left
  · -- A known variable has its true value on both sides.
    rw [leftAgree.getElem?_eq member, rightAgree.getElem?_eq ((same name).mp member)]
  · -- A variable that is not known on one side is not known on the other.
    have absent : name ∉ right := fun present => member ((same name).mpr present)
    rw [ExtTreeMap.getElem?_eq_none member, ExtTreeMap.getElem?_eq_none absent]

/-- Adding true values keeps all values true. -/
theorem Bindings.Agree.merge [LawfulEqOrd K] {truth : K → V} {known : Bindings K V}
    (agree : known.Agree truth) {supplied : List (K × V)}
    (told : ∀ binding ∈ supplied, binding.2 = truth binding.1) :
    (known.merge supplied).Agree truth := by
  have each : known.Each fun binding => binding.2 = truth binding.1 := agree
  exact each.merge told

namespace Table

/-- The solver of the variable tells its true value from those of the other variables. -/
def Tells (truth : K → V) (table : Table K V) (name : K) : Prop :=
  -- It need not answer to values that are not true.
  ∀ known : Bindings K V, known.Agree truth → table.OthersKnown name known →
    table.answer name known = some (truth name)

/-- Every solver of the formula tells the true value, or none at all. -/
def Faithful (truth : K → V) (table : Table K V) : Prop :=
  -- This concerns only true values of all other variables.
  ∀ name ∈ table.declared, table.Tells truth name ∨
    ∀ known : Bindings K V, known.Agree truth → table.OthersKnown name known →
      table.answer name known = none

/-- Asked about true values, a faithful formula yields the true value of a declared variable. -/
theorem Faithful.eq_of_solve {truth : K → V} {table : Table K V} (faithful : table.Faithful truth)
    {known : Bindings K V} (agree : known.Agree truth) {name : K} {value : V}
    (yields : table.solve known = some (name, value)) :
    name ∈ table.declared ∧ value = truth name := by
  -- The variable is declared, and is the only one that is missing.
  obtain ⟨only, answered⟩ := solve_eq_some_iff.mp yields
  have absent : name ∈ missing table.declared known := by simp [only]
  have declared : name ∈ table.declared := (mem_missing.mp absent).1
  refine ⟨declared, ?_⟩
  have others := othersKnown_of_missing only
  -- Its solver has an answer, so it is one that tells the true value.
  rcases faithful name declared with tells | silent
  · rw [tells known agree others] at answered
    exact (Option.some.inj answered).symm
  · rw [silent known agree others] at answered
    exact absurd answered (by simp)

/-- Solvers that tell the true values make a faithful formula. -/
theorem faithful_ofSolvers [LawfulEqOrd K] {declared : List K} (nonempty : declared ≠ [])
    {solver : K → Solver K V} {truth : K → V}
    (tells : ∀ name ∈ declared, ∀ known : Bindings K V,
      (∀ other ∈ declared, other ≠ name → known[other]? = some (truth other)) →
        solver name known = some (truth name)) :
    (ofSolvers declared nonempty solver).Faithful truth := by
  intro name member
  refine Or.inl fun known agree others => ?_
  rw [answer_ofSolvers nonempty solver member]
  -- Every other variable is known and has its true value.
  exact tells name member known fun other listed different =>
    agree.getElem?_eq (others other listed different)

end Table

end TwoBody
