import TwoBody.Proofs.Formula.Readiness
import TwoBody.Proofs.System.Firing

/-!
Saturation: after any run, exactly the formulas that are not ready are still pending.

Readiness is never lost, so a formula that fired is ready for good, and the last pass of an addition
leaves no formula pending that could fire.
-/

namespace TwoBody

open Std

variable {K V : Type} [Ord K] [TransOrd K]

/-- A firing forgets no variable. -/
theorem System.Fires.within {system later : System K V} (fires : Fires system later) :
    system.known.Within later.known := by
  cases fires with
  | fire known front formula back ready => exact formula.within_fire known

/-- A firing takes one formula out of the pending ones. -/
theorem System.Fires.pending_sublist {system later : System K V} (fires : Fires system later) :
    later.pending.Sublist system.pending := by
  cases fires with
  | fire known front formula back ready =>
    -- The formulas in front of it and after it stay as they are.
    exact (List.Sublist.refl front).append (List.sublist_cons_self formula back)

/-- The formulas in a list that are not ready, in order. -/
def unready (known : Bindings K V) (formulas : List (Formula K V)) : List (Formula K V) :=
  formulas.filter fun formula => !formula.ready known

/-- Of standard formulas, those that are not ready later on are among those not ready now. -/
theorem unready_unready {known later : Bindings K V} {formulas : List (Formula K V)}
    (standard : ∀ formula ∈ formulas, formula.Standard) (within : known.Within later) :
    unready later (unready known formulas) = unready later formulas := by
  unfold unready
  rw [List.filter_filter]
  refine List.filter_congr fun formula member => ?_
  cases ready : formula.ready known with
  | true =>
    -- A formula that is ready now would be dropped later as well.
    have still := (standard formula member).ready_of_within within ready
    simp [still]
  | false =>
    -- A formula that is not ready now is kept for the later choice.
    simp

namespace System

/-- The pending formulas are some of the given ones, and include all of those that are not ready. -/
structure Covers (formulas : List (Formula K V)) (system : System K V) : Prop where
  /-- Nothing becomes pending that was not given, and the order stays. -/
  pending_sublist : system.pending.Sublist formulas
  /-- No formula was retired that is not ready. -/
  unready_eq : unready system.known system.pending = unready system.known formulas

/-- However much more is known, the pending formulas include all of those that are not ready. -/
theorem Covers.unready_later {formulas : List (Formula K V)}
    (standard : ∀ formula ∈ formulas, formula.Standard) {system : System K V}
    (covers : Covers formulas system) {later : Bindings K V} (within : system.known.Within later) :
    unready later system.pending = unready later formulas := by
  have pending : ∀ formula ∈ system.pending, formula.Standard :=
    fun formula member => standard formula (covers.pending_sublist.subset member)
  -- On both sides, formulas that are ready already can be dropped beforehand.
  calc unready later system.pending
      _ = unready later (unready system.known system.pending) :=
        (unready_unready pending within).symm
      _ = unready later (unready system.known formulas) := by rw [covers.unready_eq]
      _ = unready later formulas := unready_unready standard within

/-- Supplying bindings can make pending formulas ready, but retires none. -/
theorem Covers.supply {formulas : List (Formula K V)}
    (standard : ∀ formula ∈ formulas, formula.Standard) {system : System K V}
    (covers : Covers formulas system) (supplied : List (K × V)) :
    Covers formulas (system.supply supplied) where
  pending_sublist := covers.pending_sublist
  unready_eq := covers.unready_later standard (Bindings.within_merge system.known supplied)

/-- A firing retires a formula that is ready, and so stays ready. -/
theorem Covers.fires {formulas : List (Formula K V)}
    (standard : ∀ formula ∈ formulas, formula.Standard) {system later : System K V}
    (fires : Fires system later) (covers : Covers formulas system) : Covers formulas later := by
  refine ⟨fires.pending_sublist.trans covers.pending_sublist, ?_⟩
  rw [← covers.unready_later standard fires.within]
  cases fires with
  | fire known front formula back ready =>
    -- The formula that fired does not count among the pending ones any more.
    have listed : formula ∈ formulas := covers.pending_sublist.subset (by simp)
    have still : formula.ready (formula.fire known) = true :=
      (standard formula listed).ready_of_within (formula.within_fire known) ready
    simp [unready, still]

/-- A run covers the formulas that the system covered before it. -/
theorem Covers.run {formulas : List (Formula K V)}
    (standard : ∀ formula ∈ formulas, formula.Standard) {system : System K V}
    (covers : Covers formulas system) (additions : List (List (K × V))) :
    Covers formulas (system.run additions) :=
  run_preserves (fun supplied _ _ covers => covers.supply standard supplied)
    (Covers.fires standard) covers

/-- After at least one addition, the covered formulas that are not ready are the pending ones. -/
theorem Covers.pending_run {formulas : List (Formula K V)}
    (standard : ∀ formula ∈ formulas, formula.Standard) {system : System K V}
    (covers : Covers formulas system) {additions : List (List (K × V))}
    (started : additions ≠ []) :
    (system.run additions).pending = unready (system.run additions).known formulas := by
  -- The last pass of the last addition left no formula that is ready.
  have quiet := unready_of_mem_run system started
  rw [← (covers.run standard additions).unready_eq]
  -- So leaving out the ready ones among the pending formulas leaves out none.
  exact (List.filter_eq_self.mpr fun formula member => by simp [quiet formula member]).symm

/-- At the start all formulas are pending, whatever is known. -/
theorem covers_start (known : Bindings K V) (formulas : List (Formula K V)) :
    Covers formulas ⟨known, formulas⟩ :=
  ⟨.refl formulas, rfl⟩

/-- After a run of at least one addition the pending formulas are those that are not ready. -/
theorem pending_run {formulas : List (Formula K V)}
    (standard : ∀ formula ∈ formulas, formula.Standard) {additions : List (List (K × V))}
    (started : additions ≠ []) :
    ((ofFormulas formulas).run additions).pending =
      unready ((ofFormulas formulas).run additions).known formulas :=
  (covers_start ∅ formulas).pending_run standard started

/--
A run leaves exactly those formulas pending that are not ready, in the order they were given.

So no pending formula is ready after it, and adding nothing more does nothing. The formulas may
yield anything, but are ready exactly when at most one of their variables is missing. Setting a
single variable is an addition like any other.
-/
theorem pending_run_eq_filter {formulas : List (Formula K V)}
    (standard : ∀ formula ∈ formulas, formula.ready = atMostOneMissing formula.declared)
    {additions : List (List (K × V))} (started : additions ≠ []) :
    let system := (ofFormulas formulas).run additions
    (system.pending =
      formulas.filter fun formula => !atMostOneMissing formula.declared system.known) ∧
    (∀ formula ∈ system.pending, formula.ready system.known = false) ∧
    system.retires [] = false ∧ system.add [] = system := by
  intro system
  have quiet : ∀ formula ∈ system.pending, formula.ready system.known = false :=
    unready_of_mem_run (ofFormulas formulas) started
  have idle := add_nil_of_unready quiet
  have pending : system.pending = unready system.known formulas := pending_run standard started
  refine ⟨?_, quiet, idle.2, idle.1⟩
  -- Not being ready is having more than one variable missing.
  rw [pending]
  exact List.filter_congr fun formula member => by rw [standard formula member]

/--
A formula may repeat a variable, yield one that it does not declare, or one that is known.

Here the first formula yields a foreign variable, which makes the second one ready in the same pass;
the third misses one variable at two positions and stays pending.
-/
theorem pending_run_foreign_value :
    let formulas : List (Formula Nat Nat) :=
      [{ declared := [0, 1], solve := fun _ => some (7, 70) },
       { declared := [7, 8], solve := fun _ => some (7, 71) },
       { declared := [2, 2], solve := fun _ => none }]
    let system := (ofFormulas formulas).run [[(0, 5)], []]
    system.pending.map Formula.declared = [[2, 2]] ∧
    (∀ formula ∈ formulas, formula.ready = atMostOneMissing formula.declared) ∧
    (system.pending =
      formulas.filter fun formula => !atMostOneMissing formula.declared system.known) ∧
    (∀ formula ∈ system.pending, formula.ready system.known = false) ∧
    system.retires [] = false ∧ system.add [] = system := by
  intro formulas system
  have standard : ∀ formula ∈ formulas, formula.ready = atMostOneMissing formula.declared := by
    simp [formulas]
  exact ⟨by decide +kernel, standard, pending_run_eq_filter standard (by simp)⟩

end System

end TwoBody
