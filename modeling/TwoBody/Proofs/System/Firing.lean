import Mathlib.Logic.Relation
import TwoBody.Proofs.Knowledge
import TwoBody.System

/-!
Firing: a whole addition is a sequence of single firings of ready pending formulas.

What one firing preserves is therefore preserved by passes, by additions and by runs of them. An
addition ends in a state in which no pending formula is ready.
-/

namespace TwoBody

open Std

variable {K V : Type} [Ord K] [TransOrd K]

/-- The known bindings once a formula was asked, with the one that it yielded if it had one. -/
def Formula.fire (formula : Formula K V) (known : Bindings K V) : Bindings K V :=
  -- A formula without a value leaves the bindings as they are.
  known.merge (formula.solve known).toList

/-- A formula without a value changes nothing. -/
theorem Formula.fire_of_silent {formula : Formula K V} {known : Bindings K V}
    (silent : formula.solve known = none) : formula.fire known = known := by
  simp [fire, silent]

/-- Asking a formula forgets no variable. -/
theorem Formula.within_fire (formula : Formula K V) (known : Bindings K V) :
    known.Within (formula.fire known) :=
  Bindings.within_merge known (formula.solve known).toList

/-- The variable that a formula yields a value for is known afterwards. -/
theorem Formula.mem_fire_of_solve {formula : Formula K V} {known : Bindings K V}
    {binding : K × V} (yields : formula.solve known = some binding) :
    binding.1 ∈ formula.fire known :=
  Bindings.mem_merge_of_mem known (Option.mem_toList.mpr yields)

namespace Pass

/-- A formula that is ready fires before the formulas after it are asked. -/
theorem scan_cons_ready {known : Bindings K V} {formula : Formula K V}
    (ready : formula.ready known = true) (rest : List (Formula K V)) :
    scan known (formula :: rest) =
      { scan (formula.fire known) rest with
        fired := formula :: (scan (formula.fire known) rest).fired
        derived := (formula.solve known).toList ++ (scan (formula.fire known) rest).derived } := by
  -- Whether the formula yields a binding decides only what the rest is asked about.
  cases yields : formula.solve known with
  | none => simp [scan, ready, yields, Formula.fire]
  | some binding => simp [scan, ready, yields, Formula.fire]

/-- A formula that is not ready waits, and changes nothing for the formulas after it. -/
theorem scan_cons_unready {known : Bindings K V} {formula : Formula K V}
    (unready : formula.ready known = false) (rest : List (Formula K V)) :
    scan known (formula :: rest) =
      { scan known rest with waiting := formula :: (scan known rest).waiting } := by
  simp [scan, unready]

/-- A pass adds what it derived to the known bindings. -/
theorem known_scan (known : Bindings K V) (formulas : List (Formula K V)) :
    (scan known formulas).known = known.merge (scan known formulas).derived := by
  -- Each firing adds what its formula yields, ahead of what the rest derives.
  induction formulas generalizing known with
  | nil => rfl
  | cons formula rest ih =>
    cases ready : formula.ready known with
    | true =>
      rw [scan_cons_ready ready, Bindings.merge_append]
      exact ih (formula.fire known)
    | false =>
      rw [scan_cons_unready ready]
      exact ih known

/-- A pass over formulas of which none is ready does nothing. -/
theorem scan_of_unready {known : Bindings K V} {formulas : List (Formula K V)}
    (unready : ∀ formula ∈ formulas, formula.ready known = false) :
    scan known formulas = ⟨[], formulas, [], known⟩ := by
  induction formulas with
  | nil => rfl
  | cons formula rest ih =>
    -- The first formula waits, and so do the others by induction.
    have first := unready formula List.mem_cons_self
    have others := ih fun other member => unready other (List.mem_cons_of_mem _ member)
    rw [scan_cons_unready first, others]

/-- A pass that derives nothing leaves only formulas waiting that are not ready after it. -/
theorem unready_of_mem_waiting {known : Bindings K V} {formulas : List (Formula K V)}
    (idle : (scan known formulas).derived = []) :
    ∀ formula ∈ (scan known formulas).waiting, formula.ready known = false := by
  -- Nothing is added during such a pass, so every formula is asked about the same bindings.
  induction formulas with
  | nil => simp [scan]
  | cons formula rest ih =>
    cases ready : formula.ready known with
    | true =>
      -- The formula fired without a value, so it is out of the way and changed nothing.
      rw [scan_cons_ready ready] at idle ⊢
      obtain ⟨silent, idle⟩ := List.append_eq_nil_iff.mp idle
      have same : formula.fire known = known :=
        Formula.fire_of_silent (Option.toList_eq_nil_iff.mp silent)
      rw [same] at idle ⊢
      exact ih idle
    | false =>
      -- The formula waits because it is not ready.
      rw [scan_cons_unready ready] at idle ⊢
      intro other member
      rcases List.mem_cons.mp member with rfl | member
      · exact ready
      · exact ih idle other member

end Pass

namespace System

/-- One pending formula that is ready fires, and is pending no more. -/
inductive Fires : System K V → System K V → Prop
  -- The order of the other pending formulas stays the same.
  | fire (known : Bindings K V) (front : List (Formula K V)) (formula : Formula K V)
      (back : List (Formula K V)) (ready : formula.ready known = true) :
      Fires ⟨known, front ++ formula :: back⟩ ⟨formula.fire known, front ++ back⟩

/-- Any number of firings, one after the other. -/
abbrev Settles : System K V → System K V → Prop :=
  Relation.ReflTransGen Fires

/-- What every single firing preserves, any number of them preserves. -/
theorem Settles.preserves {motive : System K V → Prop}
    (step : ∀ {system later}, Fires system later → motive system → motive later)
    {system later : System K V} (settles : Settles system later) (holds : motive system) :
    motive later := by
  -- The induction is on the number of firings.
  induction settles with
  | refl => exact holds
  | tail _ fires ih => exact step fires ih

/-- The system that one pass leaves. -/
def afterPass (system : System K V) : System K V :=
  ⟨(Pass.scan system.known system.pending).known, (Pass.scan system.known system.pending).waiting⟩

/-- A pass is a sequence of firings; the formulas it has already left waiting stay in front. -/
theorem settles_scan (known : Bindings K V) (waited formulas : List (Formula K V)) :
    Settles ⟨known, waited ++ formulas⟩
      ⟨(Pass.scan known formulas).known, waited ++ (Pass.scan known formulas).waiting⟩ := by
  -- The induction is on the formulas still to ask.
  induction formulas generalizing known waited with
  | nil => exact .refl
  | cons formula rest ih =>
    cases ready : formula.ready known with
    | true =>
      -- One firing takes the formula out from between those left waiting and the rest.
      rw [Pass.scan_cons_ready ready]
      exact .head (.fire known waited formula rest ready) (ih (formula.fire known) waited)
    | false =>
      -- Nothing fires, and the formula joins those left waiting.
      rw [Pass.scan_cons_unready ready]
      simpa using ih known (waited ++ [formula])

/-- A pass that derives nothing leaves the known bindings as they are. -/
theorem known_afterPass_of_idle {system : System K V}
    (idle : (Pass.scan system.known system.pending).derived = []) :
    system.afterPass.known = system.known := by
  rw [afterPass, Pass.known_scan, idle, Bindings.merge_nil]

/-- A pass over all pending formulas is a sequence of firings. -/
theorem settles_afterPass (system : System K V) : Settles system system.afterPass :=
  settles_scan system.known [] system.pending

/-- The passes of a saturation are the first one and, if that derives something, those after it. -/
theorem passes_eq (system : System K V) :
    system.passes = Pass.scan system.known system.pending ::
      if (Pass.scan system.known system.pending).derived = [] then []
      else system.afterPass.passes := by
  rw [passes]
  by_cases idle : (Pass.scan system.known system.pending).derived = []
  · rw [if_pos idle, dif_neg (not_not_intro idle)]
  · rw [if_neg idle, dif_pos idle]
    rfl

/-- Saturation makes another pass exactly when the first one derives something. -/
theorem saturated_eq (system : System K V) :
    system.saturated =
      if (Pass.scan system.known system.pending).derived = [] then system.afterPass
      else system.afterPass.saturated := by
  -- Only the last pass decides what is left, so a pass before it can be dropped.
  unfold saturated
  rw [passes_eq]
  split
  · rfl
  · rfl

/--
An induction along the passes of a saturation.

The last pass derives nothing; a pass before it is followed by the saturation of what it leaves.
-/
theorem saturated_induction {motive : System K V → Prop}
    (idle : ∀ system, (Pass.scan system.known system.pending).derived = [] → motive system)
    (productive : ∀ system, (Pass.scan system.known system.pending).derived ≠ [] →
      motive system.afterPass → motive system) (system : System K V) : motive system := by
  -- A pass that derives something leaves fewer formulas pending.
  induction system using passes.induct with
  | case1 system _ derives _ ih => exact productive system derives ih
  | case2 system _ derives => exact idle system (Classical.not_not.mp derives)

/-- Saturation is a sequence of firings. -/
theorem settles_saturated (system : System K V) : Settles system system.saturated := by
  -- The firings of the first pass come before those of the passes after it.
  induction system using saturated_induction with
  | idle system derives =>
    rw [saturated_eq, if_pos derives]
    exact settles_afterPass system
  | productive system derives ih =>
    rw [saturated_eq, if_neg derives]
    exact (settles_afterPass system).trans ih

/-- After saturation no pending formula is ready. -/
theorem unready_of_mem_saturated (system : System K V) :
    ∀ formula ∈ system.saturated.pending, formula.ready system.saturated.known = false := by
  induction system using saturated_induction with
  | idle system derives =>
    -- The last pass derives nothing and leaves only formulas that are not ready.
    rw [saturated_eq, if_pos derives, known_afterPass_of_idle derives]
    exact Pass.unready_of_mem_waiting derives
  | productive system derives ih =>
    -- A pass before it does not matter for what is left in the end.
    rw [saturated_eq, if_neg derives]
    exact ih

/-- An addition is a sequence of firings once its bindings are known. -/
theorem settles_add (system : System K V) (supplied : List (K × V)) :
    Settles (system.supply supplied) (system.add supplied) :=
  settles_saturated _

/-- After an addition no pending formula is ready. -/
theorem unready_of_mem_add (system : System K V) (supplied : List (K × V)) :
    ∀ formula ∈ (system.add supplied).pending,
      formula.ready (system.add supplied).known = false :=
  unready_of_mem_saturated _

/-- Where no pending formula is ready, adding nothing does nothing. -/
theorem add_nil_of_unready {system : System K V}
    (unready : ∀ formula ∈ system.pending, formula.ready system.known = false) :
    system.add [] = system ∧ system.retires [] = false := by
  -- There is only one pass, in which nothing fires.
  have pass := Pass.scan_of_unready unready
  have single : (system.supply []).passes = [⟨[], system.pending, [], system.known⟩] := by
    rw [passes]
    simp [supply, pass]
  constructor
  · simp [add, saturated, single]
  · simp [retires, single]

/-- What supplying the bindings and every single firing preserve, a whole run preserves. -/
theorem run_preserves {motive : System K V → Prop} {additions : List (List (K × V))}
    (supplies : ∀ supplied ∈ additions, ∀ system, motive system → motive (system.supply supplied))
    (step : ∀ {system later : System K V}, Fires system later → motive system → motive later)
    {system : System K V} (holds : motive system) : motive (system.run additions) := by
  -- The induction is on the additions still to make.
  induction additions generalizing system with
  | nil => exact holds
  | cons supplied rest ih =>
    -- An addition supplies its bindings first, and everything after that is firings.
    have started := supplies supplied List.mem_cons_self system holds
    have added := (settles_add system supplied).preserves step started
    exact ih (fun other member => supplies other (List.mem_cons_of_mem _ member)) added

/-- The last addition of a run is made to what the earlier ones left. -/
@[simp] theorem run_append (system : System K V) (front back : List (List (K × V))) :
    system.run (front ++ back) = (system.run front).run back := by
  simp [run, List.foldl_append]

/-- After a run of at least one addition no pending formula is ready. -/
theorem unready_of_mem_run (system : System K V) {additions : List (List (K × V))}
    (started : additions ≠ []) :
    ∀ formula ∈ (system.run additions).pending,
      formula.ready (system.run additions).known = false := by
  -- The state after the run is the state after its last addition.
  rw [← List.dropLast_concat_getLast started, run_append]
  exact unready_of_mem_add _ _

end System

end TwoBody
