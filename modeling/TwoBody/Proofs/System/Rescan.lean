import TwoBody.Proofs.Orbit.Solvers
import TwoBody.Proofs.System.Freshness

/-!
Rescanning: an engine that never retires a formula comes to know the same.

It asks all formulas again and again until none yields a value. As long as every addition supplies
unknown variables only, formulas that fired are spent, so nothing is lost by retiring them.
-/

namespace TwoBody

open Std

variable {K V : Type} [Ord K] [TransOrd K]

/-- The bindings that formulas yield when all of them are asked in order, ready or not. -/
def rescan (known : Bindings K V) : List (Formula K V) → List (K × V)
  | [] => []
  -- What a formula yields is known at once to the formulas after it.
  | formula :: rest => (formula.solve known).toList ++ rescan (formula.fire known) rest

/-- Formulas yield nothing together exactly when each of them yields nothing. -/
theorem rescan_eq_nil_iff {known : Bindings K V} {formulas : List (Formula K V)} :
    rescan known formulas = [] ↔ ∀ formula ∈ formulas, formula.solve known = none := by
  -- Before the first value all formulas are asked about the same bindings.
  induction formulas with
  | nil => simp [rescan]
  | cons formula rest ih =>
    cases yields : formula.solve known with
    | none =>
      rw [rescan, Formula.fire_of_silent yields]
      simp [yields, ih]
    | some binding => simp [rescan, yields]

/-- Where formulas yield something together, one of them yields a binding from the start. -/
theorem exists_first_of_rescan {known : Bindings K V} {formulas : List (Formula K V)}
    (productive : rescan known formulas ≠ []) :
    ∃ formula ∈ formulas, ∃ binding ∈ rescan known formulas,
      formula.solve known = some binding := by
  induction formulas with
  | nil => exact absurd rfl productive
  | cons formula rest ih =>
    cases yields : formula.solve known with
    | none =>
      -- A formula in front that yields nothing leaves the bindings as they are.
      have same : rescan known (formula :: rest) = rescan known rest := by
        rw [rescan, Formula.fire_of_silent yields, yields]
        rfl
      rw [same] at productive ⊢
      obtain ⟨other, member, found⟩ := ih productive
      exact ⟨other, List.mem_cons_of_mem _ member, found⟩
    | some binding =>
      -- The formula in front is the first one that yields a value.
      exact ⟨formula, List.mem_cons_self, binding, by simp [rescan, yields], yields⟩

/-- The bindings that tabulated formulas yield in one round, in which all of them are asked. -/
def round (tables : List (Table K V)) (known : Bindings K V) : List (K × V) :=
  rescan known (tables.map Table.toFormula)

/-- After a round that yields something, fewer of the declared variables are missing. -/
theorem missing_lt_of_round {tables : List (Table K V)} {known : Bindings K V}
    (productive : round tables known ≠ []) :
    (missing (tables.flatMap Table.declared) (known.merge (round tables known))).length <
      (missing (tables.flatMap Table.declared) known).length := by
  -- The first value is for a declared variable that was missing.
  obtain ⟨formula, member, binding, derived, yields⟩ := exists_first_of_rescan productive
  obtain ⟨table, listed, rfl⟩ := List.mem_map.mp member
  have absent : binding.1 ∈ missing table.declared known := by
    simp [(Table.solve_eq_some_iff.mp yields).1]
  obtain ⟨declared, unknown⟩ := mem_missing.mp absent
  -- The variables that are missing afterwards are some of those before, without this one.
  have sublist := missing_sublist_of_within (Bindings.within_merge known (round tables known))
    (tables.flatMap Table.declared)
  refine Nat.lt_of_le_of_ne sublist.length_le fun same => ?_
  have before : binding.1 ∈ missing (tables.flatMap Table.declared) known :=
    mem_missing.mpr ⟨List.mem_flatMap.mpr ⟨table, listed, declared⟩, unknown⟩
  rw [← sublist.eq_of_length same] at before
  exact (mem_missing.mp before).2 (Bindings.mem_merge_of_mem known derived)

/-- What is known once rounds over all formulas were made until one yields nothing. -/
def naive (tables : List (Table K V)) (known : Bindings K V) : Bindings K V :=
  if productive : round tables known ≠ [] then
    -- No formula is retired, so the next round asks all of them again.
    have : (missing (tables.flatMap Table.declared) (known.merge (round tables known))).length <
        (missing (tables.flatMap Table.declared) known).length :=
      missing_lt_of_round productive
    naive tables (known.merge (round tables known))
  else known
termination_by (missing (tables.flatMap Table.declared) known).length

/-- A round that yields nothing is the last one. -/
theorem naive_of_idle {tables : List (Table K V)} {known : Bindings K V}
    (idle : round tables known = []) : naive tables known = known := by
  rw [naive, dif_neg (not_not_intro idle)]

/-- A round that yields something is followed by another one. -/
theorem naive_of_productive {tables : List (Table K V)} {known : Bindings K V}
    (productive : round tables known ≠ []) :
    naive tables known = naive tables (known.merge (round tables known)) := by
  rw [naive, dif_pos productive]

/-- What is known after additions that are each followed by rounds over all formulas. -/
def naiveRun (tables : List (Table K V)) (additions : List (List (K × V))) : Bindings K V :=
  additions.foldl (fun known supplied => naive tables (known.merge supplied)) ∅

/-- The rounds end where no formula yields a value any more. -/
theorem solve_naive (tables : List (Table K V)) (known : Bindings K V) :
    ∀ table ∈ tables, table.solve (naive tables known) = none := by
  -- The induction is on the rounds.
  induction known using naive.induct tables with
  | case1 known productive _ ih =>
    rw [naive_of_productive productive]
    exact ih
  | case2 known idle =>
    -- In the last round every formula is asked about what is known in the end.
    have idle : round tables known = [] := Classical.not_not.mp idle
    rw [naive_of_idle idle]
    intro table member
    exact rescan_eq_nil_iff.mp idle table.toFormula (List.mem_map_of_mem member)

namespace Pass

/-- A pass over additive formulas changes no known value. -/
theorem keptIn_scan {formulas : List (Formula K V)}
    (additive : ∀ formula ∈ formulas, formula.Additive) (known : Bindings K V) :
    known.KeptIn (scan known formulas).known := by
  -- The induction is on the formulas still to ask.
  induction formulas generalizing known with
  | nil => exact .refl known
  | cons formula rest ih =>
    have others : ∀ other ∈ rest, other.Additive :=
      fun other member => additive other (List.mem_cons_of_mem _ member)
    cases ready : formula.ready known with
    | true =>
      -- Neither the firing nor the rest of the pass changes a known value.
      rw [scan_cons_ready ready]
      have first := (additive formula List.mem_cons_self).keptIn_fire known
      exact first.trans (ih others (formula.fire known))
    | false =>
      rw [scan_cons_unready ready]
      exact ih others known

/-- A pass over steady formulas derives what they yield when asked without regard to readiness. -/
theorem derived_scan {formulas : List (Formula K V)}
    (steady : ∀ formula ∈ formulas, formula.Steady) (known : Bindings K V) :
    (scan known formulas).derived = rescan known formulas := by
  induction formulas generalizing known with
  | nil => rfl
  | cons formula rest ih =>
    have others : ∀ other ∈ rest, other.Steady :=
      fun other member => steady other (List.mem_cons_of_mem _ member)
    cases ready : formula.ready known with
    | true =>
      -- Both ask the formula, and add what it yields before they go on.
      rw [scan_cons_ready ready, rescan, ih others]
    | false =>
      -- A formula that is not ready yields nothing when it is asked all the same.
      have silent := (steady formula List.mem_cons_self).patient known ready
      rw [scan_cons_unready ready, rescan, Formula.fire_of_silent silent, silent]
      exact ih others known

/-- After a pass over steady formulas those left waiting yield the same as all of them. -/
theorem rescan_waiting {formulas : List (Formula K V)}
    (steady : ∀ formula ∈ formulas, formula.Steady) {known later : Bindings K V}
    (kept : (scan known formulas).known.KeptIn later) :
    rescan later (scan known formulas).waiting = rescan later formulas := by
  -- The rest of the pass starts from other bindings, so both are left open.
  induction formulas generalizing known later with
  | nil => rfl
  | cons formula rest ih =>
    have first := steady formula List.mem_cons_self
    have others : ∀ other ∈ rest, other.Steady :=
      fun other member => steady other (List.mem_cons_of_mem _ member)
    cases ready : formula.ready known with
    | true =>
      -- A formula that fired in the pass is spent, so asking it again makes no difference.
      rw [scan_cons_ready ready] at kept ⊢
      have through := keptIn_scan (fun other member => (others other member).additive)
        (formula.fire known)
      have spent := (first.spent known ready).of_keptIn (through.trans kept)
      rw [rescan, spent later (.refl later), spent.fire_eq]
      exact ih others kept
    | false =>
      -- A formula that waits is asked on both sides.
      rw [scan_cons_unready ready] at kept ⊢
      rw [rescan, rescan, ih others (kept.trans (first.additive.keptIn_fire later))]

end Pass

namespace System

/-- From here on the pending formulas yield the same as all the formulas together. -/
def Sufficient (formulas : List (Formula K V)) (system : System K V) : Prop :=
  -- More variables may become known, but no known value may change.
  ∀ later, system.known.KeptIn later → rescan later system.pending = rescan later formulas

/-- Supplying unknown variables leaves the pending formulas sufficient. -/
theorem Sufficient.supply {formulas : List (Formula K V)} {system : System K V}
    (enough : Sufficient formulas system) {supplied : List (K × V)}
    (fresh : ∀ binding ∈ supplied, binding.1 ∉ system.known) :
    Sufficient formulas (system.supply supplied) :=
  fun later kept => enough later ((Bindings.keptIn_merge fresh).trans kept)

/-- A pass leaves the pending formulas sufficient. -/
theorem Sufficient.afterPass {formulas : List (Formula K V)} {system : System K V}
    (steady : ∀ formula ∈ system.pending, formula.Steady) (enough : Sufficient formulas system) :
    Sufficient formulas system.afterPass := by
  intro later kept
  -- Values that are kept after the pass were kept by the pass.
  have through := Pass.keptIn_scan (fun formula member => (steady formula member).additive)
    system.known
  rw [← enough later (through.trans kept)]
  exact Pass.rescan_waiting steady kept

/-- A pass over sufficient formulas derives what a round over all formulas yields. -/
theorem Sufficient.derived_scan {tables : List (Table K V)} {system : System K V}
    (steady : ∀ formula ∈ system.pending, formula.Steady)
    (enough : Sufficient (tables.map Table.toFormula) system) :
    (Pass.scan system.known system.pending).derived = round tables system.known := by
  calc (Pass.scan system.known system.pending).derived
      _ = rescan system.known system.pending := Pass.derived_scan steady system.known
      _ = round tables system.known := enough system.known (.refl system.known)

/-- Passes over sufficient formulas and rounds over all formulas go on together. -/
theorem known_saturated_eq_naive {tables : List (Table K V)} (system : System K V)
    (steady : ∀ formula ∈ system.pending, formula.Steady)
    (enough : Sufficient (tables.map Table.toFormula) system) :
    system.saturated.known = naive tables system.known ∧
      Sufficient (tables.map Table.toFormula) system.saturated := by
  -- The induction is on the passes; each of them derives what the round yields.
  induction system using saturated_induction with
  | idle system derives =>
    -- The last pass and the last round are the same one.
    have derived := enough.derived_scan steady
    rw [saturated_eq, if_pos derives, naive_of_idle (derived ▸ derives)]
    exact ⟨known_afterPass_of_idle derives, enough.afterPass steady⟩
  | productive system derives ih =>
    -- Both go on from the same bindings.
    have derived := enough.derived_scan steady
    have rest := ih ((settles_afterPass system).forall_mem_pending steady) (enough.afterPass steady)
    rw [saturated_eq, if_neg derives, naive_of_productive (derived ▸ derives), ← derived,
      ← Pass.known_scan]
    exact rest

/-- A run of fresh additions and the rounds over all formulas go on together. -/
theorem known_run_eq_foldl_naive {tables : List (Table K V)} {additions : List (List (K × V))}
    {system : System K V} (steady : ∀ formula ∈ system.pending, formula.Steady)
    (enough : Sufficient (tables.map Table.toFormula) system) (fresh : Fresh system additions) :
    (system.run additions).known =
      additions.foldl (fun known supplied => naive tables (known.merge supplied)) system.known := by
  -- The induction is on the additions still to make.
  induction additions generalizing system with
  | nil => rfl
  | cons supplied rest ih =>
    obtain ⟨unknown, fresh⟩ := fresh
    -- After the first addition both know the same, and the formulas are still sufficient.
    obtain ⟨same, after⟩ :=
      known_saturated_eq_naive (system.supply supplied) steady (enough.supply unknown)
    have known : (system.add supplied).known = naive tables (system.known.merge supplied) := same
    have still : ∀ formula ∈ (system.add supplied).pending, formula.Steady :=
      (settles_add system supplied).forall_mem_pending steady
    have rest := ih still after fresh
    rw [known] at rest
    exact rest

/--
Retiring formulas that fired loses nothing while only unknown variables are supplied.

After each addition the known bindings are those of the engine that never retires a formula, so no
formula yields a value any more, whether it is still pending or not.
-/
theorem known_run_eq_naiveRun {tables : List (Table K V)}
    (isLocal : ∀ table ∈ tables, table.Local) {additions : List (List (K × V))}
    (fresh : Fresh (ofFormulas (tables.map Table.toFormula)) additions) :
    ∀ made, made <+: additions →
      let system := (ofFormulas (tables.map Table.toFormula)).run made
      system.known = naiveRun tables made ∧
        (made ≠ [] → ∀ table ∈ tables, table.solve system.known = none) := by
  intro made isFront system
  obtain ⟨back, rfl⟩ := isFront
  have steady : ∀ formula ∈ tables.map Table.toFormula, formula.Steady :=
    List.forall_mem_map.mpr fun table listed => (isLocal table listed).steady
  -- At the start the pending formulas are all formulas.
  have same : system.known = naiveRun tables made :=
    known_run_eq_foldl_naive steady (fun _ _ => rfl) fresh.of_append
  refine ⟨same, fun started table member => ?_⟩
  -- The last addition ends with a round in which no formula yields a value.
  rw [same, naiveRun, ← List.dropLast_concat_getLast started, List.foldl_append]
  exact solve_naive tables _ table member

open Orbit in
/--
A formula that was retired without a value misses nothing when its variable is supplied later.

The first addition leaves two formulas pending although the central body is unknown: the formula for
the velocity at periapsis was asked for it, and has no solver for it.
-/
theorem known_run_eq_naiveRun_without_gm :
    let supplied : List (Variable × Float) :=
      [(.periVelocity, 1), (.periRadius, 2), (.apoRadius, 4)]
    let additions := [supplied, [(.gm, 8)]]
    let start := ofFormulas (tables.map Table.toFormula)
    (start.add supplied).pending.length = 2 ∧ Variable.gm ∉ (start.add supplied).known ∧
    (∀ table ∈ tables, table.Local) ∧ Fresh start additions ∧
    ∀ made, made <+: additions →
      (start.run made).known = naiveRun tables made ∧
        (made ≠ [] → ∀ table ∈ tables, table.solve (start.run made).known = none) := by
  intro supplied additions start
  have unknown : Variable.gm ∉ (start.add supplied).known := by decide +kernel
  -- Nothing is known at the start, and only the central body is supplied after that.
  have fresh : Fresh start additions :=
    ⟨by simp [start, ofFormulas], by simpa using unknown, trivial⟩
  exact ⟨by decide +kernel, unknown, local_of_mem_tables, fresh,
    known_run_eq_naiveRun local_of_mem_tables fresh⟩

end System

end TwoBody
