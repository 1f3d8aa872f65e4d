import TwoBody.Proofs.System.Freshness
import TwoBody.Proofs.System.Work

/-!
Derivation: what holds of all supplied bindings, and of all that formulas yield, holds throughout.

The formulas may rely on it for the bindings that they are asked about. It holds then of each
binding that is known after a run, and of each one that is derived in a pass on the way.
-/

namespace TwoBody

open Std

variable {K V : Type} [Ord K] [TransOrd K] [LawfulEqOrd K] {holds : K × V → Prop}

/-- Asked about bindings of a kind, the formula yields none but bindings of this kind. -/
def Formula.Keeps (holds : K × V → Prop) (formula : Formula K V) : Prop :=
  -- It need not yield any.
  ∀ known : Bindings K V, known.Each holds →
    ∀ binding, formula.solve known = some binding → holds binding

/-- A formula that fires adds none but bindings of the kind that it keeps to. -/
theorem Formula.Keeps.each_fire {formula : Formula K V} (keeps : formula.Keeps holds)
    {known : Bindings K V} (each : known.Each holds) : (formula.fire known).Each holds :=
  each.merge fun binding member => keeps known each binding (Option.mem_toList.mp member)

/-- A pass derives none but bindings of a kind that all of its formulas keep to. -/
theorem Pass.forall_mem_derived {formulas : List (Formula K V)}
    (keeps : ∀ formula ∈ formulas, formula.Keeps holds) {known : Bindings K V}
    (each : known.Each holds) : ∀ binding ∈ (scan known formulas).derived, holds binding := by
  -- The induction is on the formulas still to ask.
  induction formulas generalizing known with
  | nil => simp [scan]
  | cons formula rest ih =>
    obtain ⟨keepsHere, keeps⟩ := List.forall_mem_cons.mp keeps
    cases ready : formula.ready known with
    | true =>
      rw [scan_cons_ready ready]
      refine List.forall_mem_append.mpr ⟨?_, ih keeps (keepsHere.each_fire each)⟩
      intro binding member
      exact keepsHere known each binding (Option.mem_toList.mp member)
    | false =>
      rw [scan_cons_unready ready]
      exact ih keeps each

namespace System

/-- The known bindings of a system are of a kind, and its pending formulas keep to it. -/
structure Upholds (holds : K × V → Prop) (system : System K V) : Prop where
  /-- The known bindings are of this kind. -/
  each : system.known.Each holds
  /-- So are the bindings that pending formulas yield. -/
  keeps : ∀ formula ∈ system.pending, formula.Keeps holds

/-- Supplying bindings of a kind upholds it. -/
theorem Upholds.supply {system : System K V} (upholds : system.Upholds holds)
    {supplied : List (K × V)} (given : ∀ binding ∈ supplied, holds binding) :
    (system.supply supplied).Upholds holds where
  each := upholds.each.merge given
  keeps := upholds.keeps

/-- A firing upholds what the formula keeps to. -/
theorem Upholds.fires {system later : System K V} (fires : Fires system later)
    (upholds : system.Upholds holds) : later.Upholds holds := by
  have keeps : ∀ formula ∈ later.pending, formula.Keeps holds :=
    fun formula member => upholds.keeps formula (fires.pending_sublist.subset member)
  cases fires with
  | fire known front formula back ready =>
    have keepsHere : formula.Keeps holds := upholds.keeps formula (by simp)
    exact ⟨keepsHere.each_fire upholds.each, keeps⟩

/-- A saturation derives none but bindings of a kind that the system upholds. -/
theorem Upholds.forall_mem_passes {system : System K V} (upholds : system.Upholds holds) :
    ∀ pass ∈ system.passes, ∀ binding ∈ pass.derived, holds binding := by
  have first := Pass.forall_mem_derived upholds.keeps upholds.each
  induction system using saturated_induction with
  | idle system derives =>
    rw [passes_eq, if_pos derives]
    simpa using first
  | productive system derives ih =>
    -- The first pass leaves a system that still upholds it.
    have after : system.afterPass.Upholds holds :=
      (settles_afterPass system).preserves Upholds.fires upholds
    have others := ih after (Pass.forall_mem_derived after.keeps after.each)
    rw [passes_eq, if_neg derives]
    exact List.forall_mem_cons.mpr ⟨first, others⟩

/-- An addition of bindings of a kind upholds it. -/
theorem Upholds.add {system : System K V} (upholds : system.Upholds holds)
    {supplied : List (K × V)} (given : ∀ binding ∈ supplied, holds binding) :
    (system.add supplied).Upholds holds :=
  (settles_add system supplied).preserves Upholds.fires (upholds.supply given)

/-- A run with bindings of a kind upholds it. -/
theorem Upholds.run {system : System K V} (upholds : system.Upholds holds)
    {additions : List (List (K × V))}
    (given : ∀ supplied ∈ additions, ∀ binding ∈ supplied, holds binding) :
    (system.run additions).Upholds holds :=
  run_preserves (fun supplied member _ upholds => upholds.supply (given supplied member))
    Upholds.fires upholds

/-- A run with bindings of a kind derives none but such bindings in all of its passes. -/
theorem Upholds.forall_mem_passesAlong {system : System K V} (upholds : system.Upholds holds)
    {additions : List (List (K × V))}
    (given : ∀ supplied ∈ additions, ∀ binding ∈ supplied, holds binding) :
    ∀ pass ∈ system.passesAlong additions, ∀ binding ∈ pass.derived, holds binding := by
  -- The induction is on the additions still to make.
  induction additions generalizing system with
  | nil => simp [passesAlong]
  | cons supplied rest ih =>
    obtain ⟨first, others⟩ := List.forall_mem_cons.mp given
    rw [passesAlong]
    exact List.forall_mem_append.mpr
      ⟨(upholds.supply first).forall_mem_passes, ih (upholds.add first) others⟩

omit [LawfulEqOrd K] in
/-- At the start nothing is known, so the formulas alone have to keep to the kind. -/
theorem upholds_ofFormulas {formulas : List (Formula K V)}
    (keeps : ∀ formula ∈ formulas, formula.Keeps holds) : (ofFormulas formulas).Upholds holds where
  each := Bindings.each_empty holds
  keeps := keeps

end System

end TwoBody
