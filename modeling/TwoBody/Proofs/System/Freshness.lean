import TwoBody.Proofs.Formula.Answer
import TwoBody.Proofs.System.Saturation

/-!
Freshness: known values stay as they are while nobody supplies them anew.

Tabulated formulas only yield values for variables that have none. If their solvers read nothing but
the other variables of the formula, then one that fired has nothing more to yield.
-/

namespace TwoBody

open Std

variable {K V : Type} [Ord K] [TransOrd K]

/-- A formula that only yields values for variables that have none. -/
def Formula.Additive (formula : Formula K V) : Prop :=
  -- What it yields never replaces a known value.
  ∀ known name value, formula.solve known = some (name, value) → name ∉ known

/-- Asking an additive formula changes no known value. -/
theorem Formula.Additive.keptIn_fire {formula : Formula K V} (additive : formula.Additive)
    (known : Bindings K V) : known.KeptIn (formula.fire known) := by
  -- The binding that it yields, if it yields one, is for a variable without a value.
  refine Bindings.keptIn_merge fun binding member => ?_
  exact additive known binding.1 binding.2 (Option.mem_toList.mp member)

/-- Tabulated formulas are additive. -/
theorem Table.additive (table : Table K V) : table.toFormula.Additive :=
  fun _ _ _ yields => not_mem_of_solve yields

/-- A formula that has nothing more to yield as long as the known values stay. -/
def Formula.Spent (formula : Formula K V) (known : Bindings K V) : Prop :=
  -- More variables may become known in the meantime.
  ∀ later, known.KeptIn later → formula.solve later = none

/-- A spent formula stays spent as long as the known values stay. -/
theorem Formula.Spent.of_keptIn {formula : Formula K V} {known later : Bindings K V}
    (spent : formula.Spent known) (kept : known.KeptIn later) : formula.Spent later :=
  fun latest still => spent latest (kept.trans still)

/-- Asking a spent formula changes nothing. -/
theorem Formula.Spent.fire_eq {formula : Formula K V} {known : Bindings K V}
    (spent : formula.Spent known) : formula.fire known = known :=
  fire_of_silent (spent known (.refl known))

/-- A formula for which a single firing is enough. -/
structure Formula.Steady (formula : Formula K V) : Prop where
  /-- It only yields values for variables that have none. -/
  additive : formula.Additive
  /-- It yields nothing before it is ready. -/
  patient : ∀ known, formula.ready known = false → formula.solve known = none
  /-- Once it has fired it is spent. -/
  spent : ∀ known, formula.ready known = true → formula.Spent (formula.fire known)

/-- A tabulated formula yields nothing before it is ready. -/
theorem Table.solve_of_unready {table : Table K V} {known : Bindings K V}
    (unready : atMostOneMissing table.declared known = false) : table.solve known = none := by
  -- More than one variable is missing then.
  refine solve_of_length_ne_one ?_
  simp only [atMostOneMissing, decide_eq_false_iff_not] at unready
  omega

/-- Where the only missing variable has no answer now, it has none later with the same values. -/
theorem Table.Local.spent_of_silent {table : Table K V} (isLocal : table.Local)
    {known : Bindings K V} (ready : atMostOneMissing table.declared known = true)
    (silent : table.solve known = none) : table.toFormula.Spent known := by
  intro later kept
  refine solve_eq_none_of_answer fun name only => ?_
  -- The variable that is missing later on is the one that is missing now.
  have absent : name ∈ missing table.declared later := by simp [only]
  have before : missing table.declared known = [name] :=
    missing_eq_singleton ready
      ((missing_sublist_of_within kept.within table.declared).subset absent)
  -- Its solver reads the other variables, which keep their values.
  have others : ∀ read ∈ table.declared, read ≠ name → later[read]? = known[read]? := by
    intro read member different
    refine kept.getElem?_eq (not_not.mp fun unknown => different ?_)
    simpa [before] using mem_missing.mpr ⟨member, unknown⟩
  rw [isLocal name (mem_missing.mp absent).1 later known others]
  cases answered : table.answer name known with
  | none => rfl
  | some value => simp [solve_eq_some_iff.mpr ⟨before, answered⟩] at silent

/-- Where the only missing variable has got a value, nothing is missing any more. -/
theorem Table.spent_of_yields {table : Table K V} {known : Bindings K V} {binding : K × V}
    (yields : table.solve known = some binding) :
    table.toFormula.Spent (table.toFormula.fire known) := by
  intro later kept
  refine solve_eq_none_of_answer fun name only => ?_
  have absent : name ∈ missing table.declared later := by simp [only]
  -- A variable that is missing later on can only be the one that was missing before.
  have within := (table.toFormula.within_fire known).trans kept.within
  have before := (missing_sublist_of_within within table.declared).subset absent
  rw [(solve_eq_some_iff.mp yields).1] at before
  have same : name = binding.1 := List.mem_singleton.mp before
  -- But the firing made that one known.
  have present : binding.1 ∈ later := kept.within binding.1 (Formula.mem_fire_of_solve yields)
  exact absurd (same ▸ present) (mem_missing.mp absent).2

/-- For a tabulated formula with local solvers a single firing is enough. -/
theorem Table.Local.steady {table : Table K V} (isLocal : table.Local) :
    table.toFormula.Steady where
  additive := table.additive
  patient _ unready := solve_of_unready unready
  spent known ready := by
    cases yields : table.solve known with
    | none =>
      -- The firing changed nothing, so the formula is spent where it was.
      have spent := isLocal.spent_of_silent ready yields
      rw [spent.fire_eq]
      exact spent
    | some binding => exact spent_of_yields yields

namespace System

/-- Firings take formulas out of the pending ones. -/
theorem Settles.pending_sublist {system later : System K V} (settles : Settles system later) :
    later.pending.Sublist system.pending :=
  settles.preserves (motive := fun state => state.pending.Sublist system.pending)
    (fun fires sublist => fires.pending_sublist.trans sublist) (.refl _)

/-- What is true of every pending formula stays true of every pending formula. -/
theorem Settles.forall_mem_pending {motive : Formula K V → Prop} {system later : System K V}
    (settles : Settles system later) (holds : ∀ formula ∈ system.pending, motive formula) :
    ∀ formula ∈ later.pending, motive formula :=
  fun formula member => holds formula (settles.pending_sublist.subset member)

/-- Each addition of a run supplies only variables that are not known before it. -/
def Fresh (system : System K V) : List (List (K × V)) → Prop
  | [] => True
  -- One addition may name the same variable more than once.
  | supplied :: rest =>
    (∀ binding ∈ supplied, binding.1 ∉ system.known) ∧ Fresh (system.add supplied) rest

/-- The additions at the front of a fresh run are a fresh run. -/
theorem Fresh.of_append {system : System K V} {front back : List (List (K × V))}
    (fresh : Fresh system (front ++ back)) : Fresh system front := by
  -- Whether an addition is fresh depends on the additions before it only.
  induction front generalizing system with
  | nil => trivial
  | cons supplied rest ih => exact ⟨fresh.1, ih fresh.2⟩

/-- What supplying unknown variables and every single firing preserve, a fresh run preserves. -/
theorem Fresh.run_preserves {motive : System K V → Prop} {additions : List (List (K × V))}
    (supplies : ∀ supplied ∈ additions, ∀ system, (∀ binding ∈ supplied, binding.1 ∉ system.known) →
      motive system → motive (system.supply supplied))
    (step : ∀ {system later : System K V}, Fires system later → motive system → motive later)
    {system : System K V} (fresh : Fresh system additions) (holds : motive system) :
    motive (system.run additions) := by
  -- The induction is on the additions still to make, each of them to what the others left.
  induction additions generalizing system with
  | nil => exact holds
  | cons supplied rest ih =>
    have started := supplies supplied List.mem_cons_self system fresh.1 holds
    have added := (settles_add system supplied).preserves step started
    exact ih (fun other member => supplies other (List.mem_cons_of_mem _ member)) fresh.2 added

end System

end TwoBody
