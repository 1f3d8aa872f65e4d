import Mathlib.Data.List.Basic
import TwoBody.Formula
import TwoBody.Proofs.Knowledge

/-! Readiness: a formula that waits for its last variable becomes ready and stays so. -/

namespace TwoBody

open Std

variable {K V : Type} [Ord K] [TransOrd K]

/-- The missing variables are the declared ones without a known value. -/
@[simp] theorem mem_missing {declared : List K} {known : Bindings K V} {name : K} :
    name ∈ missing declared known ↔ name ∈ declared ∧ name ∉ known := by
  simp [missing]

/-- Knowing more variables takes some of the missing ones away and adds none. -/
theorem missing_sublist_of_within {known later : Bindings K V} (within : known.Within later)
    (declared : List K) : (missing declared later).Sublist (missing declared known) := by
  -- Both are filters of the same list, so it is enough to look at one variable.
  refine List.monotone_filter_right declared ?_
  intro name absent
  simp only [decide_eq_true_eq] at absent ⊢
  -- A variable that is missing later was already missing before.
  exact fun member => absent (within name member)

/-- One missing variable at most stays one at most when more variables are known. -/
theorem atMostOneMissing_of_within {known later : Bindings K V} (within : known.Within later)
    {declared : List K} (few : atMostOneMissing declared known = true) :
    atMostOneMissing declared later = true := by
  -- The missing variables later are a part of those before, so there are no more of them.
  have shorter := (missing_sublist_of_within within declared).length_le
  simp only [atMostOneMissing, decide_eq_true_eq] at few ⊢
  omega

/-- Where one variable at most is missing, a missing one is the only one. -/
theorem missing_eq_singleton {declared : List K} {known : Bindings K V} {name : K}
    (few : atMostOneMissing declared known = true) (absent : name ∈ missing declared known) :
    missing declared known = [name] := by
  -- The variable by itself is a part of the missing ones that is as long as all of them.
  have part : [name].Sublist (missing declared known) := List.singleton_sublist.mpr absent
  have short : (missing declared known).length ≤ [name].length := by
    simpa [atMostOneMissing] using few
  exact (part.eq_of_length_le short).symm

/-- Among distinct variables at most one is missing once all but one of them are known. -/
theorem atMostOneMissing_of_others {declared : List K} (distinct : declared.Nodup)
    {known : Bindings K V} {name : K} (others : ∀ other ∈ declared, other ≠ name → other ∈ known) :
    atMostOneMissing declared known = true := by
  -- Only the excepted variable can be missing.
  have only : missing declared known ⊆ [name] := by
    intro other absent
    obtain ⟨member, unknown⟩ := mem_missing.mp absent
    by_cases same : other = name
    · simp [same]
    · exact absurd (others other member same) unknown
  -- It stands at one position only.
  have once : (missing declared known).Nodup := distinct.filter _
  simpa [atMostOneMissing] using once.length_le_of_subset only

/-- A formula that is ready exactly when at most one of its variables is missing. -/
def Formula.Standard (formula : Formula K V) : Prop :=
  -- Nothing is said about what such a formula yields.
  formula.ready = atMostOneMissing formula.declared

/-- A standard formula that is ready stays ready when more variables are known. -/
theorem Formula.Standard.ready_of_within {formula : Formula K V} (standard : formula.Standard)
    {known later : Bindings K V} (within : known.Within later)
    (ready : formula.ready known = true) : formula.ready later = true := by
  rw [standard] at ready ⊢
  exact atMostOneMissing_of_within within ready

end TwoBody
