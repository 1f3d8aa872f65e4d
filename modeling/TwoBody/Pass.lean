import TwoBody.Formula

/-! Passes: every pending formula is asked once, in order, and those that are ready fire. -/

namespace TwoBody

open Std

/-- What one pass over the pending formulas did. -/
structure Pass (K V : Type) [Ord K] [TransOrd K] where
  /-- The formulas that were ready when their turn came, in order. -/
  fired : List (Formula K V)
  /-- The formulas that were not, in order. -/
  waiting : List (Formula K V)
  /-- The bindings that the fired formulas yielded, in order. -/
  derived : List (K × V)
  /-- All bindings known after the pass. -/
  known : Bindings K V

namespace Pass

variable {K V : Type} [Ord K] [TransOrd K]

/--
One pass over formulas, in order.

What a formula yields is known at once, so the formulas after it can be ready in the same pass.
-/
def scan (known : Bindings K V) : List (Formula K V) → Pass K V
  | [] => ⟨[], [], [], known⟩
  | formula :: rest =>
    if formula.ready known then
      match formula.solve known with
      | some (name, value) =>
        let later := scan (known.insert name value) rest
        { later with fired := formula :: later.fired, derived := (name, value) :: later.derived }
      | none =>
        let later := scan known rest
        { later with fired := formula :: later.fired }
    else
      let later := scan known rest
      { later with waiting := formula :: later.waiting }

/-- Every formula that is asked either fires or keeps waiting. -/
theorem length_fired_add_waiting (known : Bindings K V) (formulas : List (Formula K V)) :
    (scan known formulas).fired.length + (scan known formulas).waiting.length =
      formulas.length := by
  -- Each formula goes to exactly one of the two lists.
  induction formulas generalizing known with
  | nil => rfl
  | cons formula rest ih =>
    simp only [scan]
    split
    · split
      · rename_i name value _
        have := ih (known.insert name value)
        simp only [List.length_cons]; omega
      · have := ih known
        simp only [List.length_cons]; omega
    · have := ih known
      simp only [List.length_cons]; omega

/-- Only formulas that fire yield bindings, one each at most. -/
theorem length_derived_le_fired (known : Bindings K V) (formulas : List (Formula K V)) :
    (scan known formulas).derived.length ≤ (scan known formulas).fired.length := by
  -- A yielded binding is recorded together with the formula that yielded it.
  induction formulas generalizing known with
  | nil => exact Nat.le_refl _
  | cons formula rest ih =>
    simp only [scan]
    split
    · split
      · exact Nat.succ_le_succ (ih _)
      · exact Nat.le_succ_of_le (ih _)
    · exact ih _

/-- A pass that derives something leaves fewer formulas waiting than it asked. -/
theorem length_waiting_lt {known : Bindings K V} {formulas : List (Formula K V)}
    (productive : (scan known formulas).derived ≠ []) :
    (scan known formulas).waiting.length < formulas.length := by
  -- At least one formula fired, and fired and waiting ones add up to those asked.
  have positive := List.length_pos_iff.mpr productive
  have bounded := length_derived_le_fired known formulas
  have total := length_fired_add_waiting known formulas
  omega

end Pass

end TwoBody
