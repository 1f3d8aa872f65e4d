import TwoBody.Proofs.System.Closure

/-!
A single pass: formulas in dependency order fire one after the other, and none is left waiting.

What a formula yields is known to the formulas behind it in the same pass. So a formula is ready
when its turn comes, if it has one variable at most that is neither known nor declared in front of
it. Its variables are known from then on, and the next formula can rely on them.
-/

namespace TwoBody

open Std

variable {K V : Type} [Ord K] [TransOrd K]

/-- The variable has no value yet, and none of the formulas declares it. -/
def Unsettled (known : Bindings K V) (tables : List (Table K V)) (name : K) : Prop :=
  -- A formula settles all of its variables once it fires.
  name ∉ known ∧ ∀ table ∈ tables, name ∉ table.declared

/-- It can be decided whether a variable is unsettled. -/
instance [DecidableEq K] (known : Bindings K V) (tables : List (Table K V)) (name : K) :
    Decidable (Unsettled known tables name) :=
  inferInstanceAs (Decidable (_ ∧ _))

/-- Each formula has at most one variable that is not settled in front of it. -/
def InOrder (known : Bindings K V) (tables : List (Table K V)) : Prop :=
  -- The formulas in front of it are those that a pass asks before it.
  ∀ front table back, tables = front ++ table :: back →
    ∀ first ∈ table.declared, ∀ second ∈ table.declared,
      Unsettled known front first → Unsettled known front second → first = second

/-- No formulas are in order. -/
theorem inOrder_nil (known : Bindings K V) : InOrder known [] := by
  intro front table back split
  -- There is no formula to be in the list.
  simp at split

/-- A formula can be put behind others if they settle all but one of its variables at most. -/
theorem InOrder.concat {known : Bindings K V} {tables : List (Table K V)} {table : Table K V}
    (ordered : InOrder known tables)
    (single : ∀ first ∈ table.declared, ∀ second ∈ table.declared,
      Unsettled known tables first → Unsettled known tables second → first = second) :
    InOrder known (tables ++ [table]) := by
  intro front other back split
  -- The other formula is the new one if nothing is behind it.
  rcases List.eq_nil_or_concat back with rfl | ⟨between, last, rfl⟩
  · obtain ⟨rfl, same⟩ := List.append_inj' split rfl
    rw [← (List.cons.inj same).1]
    exact single
  · have split : tables ++ [table] = (front ++ other :: between) ++ [last] := by simpa using split
    exact ordered front other between (List.append_inj' split rfl).1

/-- The first formula in order is ready. -/
theorem InOrder.ready {known : Bindings K V} {table : Table K V} {rest : List (Table K V)}
    (ordered : InOrder known (table :: rest)) (distinct : table.declared.Nodup) :
    atMostOneMissing table.declared known = true := by
  -- No formula stands in front of it, so its unsettled variables are the missing ones.
  have alike : ∀ first ∈ table.declared, ∀ second ∈ table.declared, first ∉ known →
      second ∉ known → first = second := by
    intro first member second memberToo unknown unknownToo
    exact ordered [] table rest rfl first member second memberToo ⟨unknown, by simp⟩
      ⟨unknownToo, by simp⟩
  by_cases complete : missing table.declared known = []
  · simp [atMostOneMissing, complete]
  · obtain ⟨name, absent⟩ := List.exists_mem_of_ne_nil _ complete
    obtain ⟨member, unknown⟩ := mem_missing.mp absent
    have others : ∀ other ∈ table.declared, other ≠ name → other ∈ known := by
      intro other memberToo different
      by_contra unknownToo
      -- Another missing variable would have to be the same one.
      exact different (alike other memberToo name member unknownToo unknown)
    exact atMostOneMissing_of_others distinct others

/-- The other formulas are in order, too, once all variables of the first one are known. -/
theorem InOrder.tail {known later : Bindings K V} {table : Table K V} {rest : List (Table K V)}
    (ordered : InOrder known (table :: rest)) (within : known.Within later)
    (settled : ∀ name ∈ table.declared, name ∈ later) : InOrder later rest := by
  -- What is unsettled without the first formula is so with it.
  have before : ∀ front name, Unsettled later front name →
      Unsettled known (table :: front) name := by
    intro front name unsettled
    have apart : name ∉ table.declared := fun member => unsettled.1 (settled name member)
    exact ⟨fun member => unsettled.1 (within name member),
      List.forall_mem_cons.mpr ⟨apart, unsettled.2⟩⟩
  intro front behind back split first member second memberToo one two
  exact ordered (table :: front) behind back (congrArg (table :: ·) split) first member second
    memberToo (before front first one) (before front second two)

/-- Formulas stay in order without those all of whose variables are known. -/
theorem InOrder.filter {known : Bindings K V} {tables : List (Table K V)}
    (ordered : InOrder known tables) {keep : Table K V → Bool}
    (dropped : ∀ table ∈ tables, keep table = false → ∀ name ∈ table.declared, name ∈ known) :
    InOrder known (tables.filter keep) := by
  intro front table back split
  -- The formula has the dropped ones of the whole list in front of it, too.
  obtain ⟨left, right, rfl, rfl, rest⟩ := List.filter_eq_append_iff.mp split
  obtain ⟨gap, behind, rfl, skipped, -, -⟩ := List.filter_eq_cons_iff.mp rest
  have before : ∀ name, Unsettled known (left.filter keep) name →
      Unsettled known (left ++ gap) name := by
    intro name unsettled
    refine ⟨unsettled.1, ?_⟩
    intro earlier listed declared
    cases kept : keep earlier with
    | true =>
      -- A formula that is kept is not one of the gap.
      rcases List.mem_append.mp listed with inside | between
      · exact unsettled.2 earlier (List.mem_filter.mpr ⟨inside, kept⟩) declared
      · exact skipped earlier between kept
    | false =>
      have member : earlier ∈ left ++ (gap ++ table :: behind) := by
        rw [← List.append_assoc]
        exact List.mem_append_left _ listed
      exact unsettled.1 (dropped earlier member kept name declared)
  intro first member second memberToo one two
  exact ordered (left ++ gap) table behind (by simp) first member second memberToo
    (before first one) (before second two)

namespace Table

/-- Every solver of the formula yields a value once all other variables are known. -/
def SpeaksAll (table : Table K V) : Prop :=
  -- So the formula can be solved for each of its variables.
  ∀ name ∈ table.declared, table.Speaks name

/-- A formula that can be solved for all of its variables settles them when it fires. -/
theorem SpeaksAll.mem_fire {table : Table K V} (speaks : table.SpeaksAll)
    (distinct : table.declared.Nodup) {known : Bindings K V}
    (ready : atMostOneMissing table.declared known = true) :
    ∀ name ∈ table.declared, name ∈ table.toFormula.fire known := by
  have decisive := decisive_of_silent_or_speaks distinct
    fun name member => Or.inr (speaks name member)
  intro name member
  exact decisive.mem_fire trivial ready member (speaks name member)

end Table

namespace Pass

/-- A pass forgets no variable. -/
theorem within_scan (known : Bindings K V) (formulas : List (Formula K V)) :
    known.Within (scan known formulas).known := by
  rw [known_scan]
  exact Bindings.within_merge known _

/-- A pass over formulas in order fires all of them and settles all of their variables. -/
theorem scan_in_order {tables : List (Table K V)}
    (distinct : ∀ table ∈ tables, table.declared.Nodup)
    (speaks : ∀ table ∈ tables, table.SpeaksAll) {known : Bindings K V}
    (ordered : InOrder known tables) :
    (scan known (tables.map Table.toFormula)).fired = tables.map Table.toFormula ∧
    (scan known (tables.map Table.toFormula)).waiting = [] ∧
    ∀ table ∈ tables, ∀ name ∈ table.declared,
      name ∈ (scan known (tables.map Table.toFormula)).known := by
  -- The induction is on the formulas still to ask, which find more known than those before.
  induction tables generalizing known with
  | nil => exact ⟨rfl, rfl, by simp⟩
  | cons table rest ih =>
    obtain ⟨distinctHere, distinct⟩ := List.forall_mem_cons.mp distinct
    obtain ⟨speaksHere, speaks⟩ := List.forall_mem_cons.mp speaks
    -- The first formula is ready, and settles its variables for the others.
    have ready : table.toFormula.ready known = true := ordered.ready distinctHere
    have settled := speaksHere.mem_fire distinctHere ready
    have others := ordered.tail (table.toFormula.within_fire known) settled
    obtain ⟨fired, waiting, spread⟩ := ih distinct speaks others
    rw [List.map_cons, scan_cons_ready ready]
    refine ⟨congrArg (table.toFormula :: ·) fired, waiting,
      List.forall_mem_cons.mpr ⟨?_, spread⟩⟩
    intro name member
    exact within_scan _ _ name (settled name member)

end Pass

namespace System

/-- Without pending formulas there is one pass, and it does nothing. -/
theorem passes_of_nothing_pending (known : Bindings K V) :
    (⟨known, []⟩ : System K V).passes = [⟨[], [], [], known⟩] := by
  rw [passes_eq]
  rfl

/-- Without pending formulas a system is saturated. -/
theorem saturated_of_nothing_pending (known : Bindings K V) :
    (⟨known, []⟩ : System K V).saturated = ⟨known, []⟩ := by
  rw [saturated_eq]
  rfl

/-- A system whose first pass leaves nothing waiting makes one more pass at most. -/
theorem passes_of_waiting {system : System K V}
    (done : (Pass.scan system.known system.pending).waiting = []) :
    let first := Pass.scan system.known system.pending
    system.passes = first :: (if first.derived = [] then [] else [⟨[], [], [], first.known⟩]) ∧
    system.saturated = ⟨first.known, []⟩ := by
  intro first
  -- After the first pass no formula is pending.
  have after : system.afterPass = ⟨first.known, []⟩ := by
    rw [afterPass, done]
  constructor
  · rw [passes_eq, after, passes_of_nothing_pending]
  · rw [saturated_eq, after, saturated_of_nothing_pending, ite_self]

section Runs

variable [LawfulEqOrd K] {tables : List (Table K V)}

/-- After a run, each formula is pending or all of its variables are known. -/
theorem exists_pending_run (distinct : ∀ table ∈ tables, table.declared.Nodup)
    (speaks : ∀ table ∈ tables, table.SpeaksAll) (known : Bindings K V)
    (additions : List (List (K × V))) :
    let system := System.run ⟨known, tables.map Table.toFormula⟩ additions
    ∃ keep : Table K V → Bool, system.pending = (tables.filter keep).map Table.toFormula ∧
      ∀ table ∈ tables, keep table = false → ∀ name ∈ table.declared, name ∈ system.known := by
  intro system
  by_cases started : additions = []
  · -- Before any addition all formulas are pending.
    subst started
    exact ⟨fun _ => true, by simp [system, run], by simp⟩
  · -- Otherwise those are pending that are not ready.
    have pending : system.pending = unready system.known (tables.map Table.toFormula) :=
      (covers_start known _).pending_run (Table.forall_standard tables) started
    refine ⟨fun table => !atMostOneMissing table.declared system.known, ?_, ?_⟩
    · rw [pending, unready, List.filter_map]
      rfl
    · intro table listed ready
      have decided := decided_of_silent_or_speaks distinct
        (fun table listed name member => Or.inr (speaks table listed name member)) additions
      have closing : Closing _ Table.Speaks tables Set.univ system :=
        closing_run_univ decided trivial
      rcases closing.settled table listed with still | settled
      · -- A formula that is ready is not pending any more.
        rw [pending] at still
        have unready := (List.mem_filter.mp still).2
        exact absurd (unready.symm.trans ready) (by simp)
      · intro name member
        exact settled name member (speaks table listed name member)

/--
Formulas in dependency order fire in a single pass.

Each formula can be solved for all of its variables, which are distinct. If an addition leaves each
of them at most one variable that is neither known nor declared in front of it, the first pass fires
all pending formulas, and all of their variables are known after it. There is one more pass only if
the first one derives something, and that goes over no formula and changes nothing. Earlier
additions may have retired some of the formulas; at the start all of them are pending.
-/
theorem single_pass_in_order (distinct : ∀ table ∈ tables, table.declared.Nodup)
    (speaks : ∀ table ∈ tables, ∀ name ∈ table.declared, table.Speaks name)
    (known : Bindings K V) (additions : List (List (K × V))) (supplied : List (K × V)) :
    let system := System.run ⟨known, tables.map Table.toFormula⟩ additions
    let start := system.supply supplied
    let first := Pass.scan start.known start.pending
    InOrder start.known tables →
      first.fired = system.pending ∧ first.waiting = [] ∧
      (additions = [] → first.fired = tables.map Table.toFormula) ∧
      (∀ table ∈ tables, ∀ name ∈ table.declared, name ∈ first.known) ∧
      start.passes = first :: (if first.derived = [] then [] else [⟨[], [], [], first.known⟩]) ∧
      system.add supplied = ⟨first.known, []⟩ := by
  intro system start first ordered
  obtain ⟨keep, pending, retired⟩ := exists_pending_run distinct speaks known additions
  have within : system.known.Within start.known := Bindings.within_merge system.known supplied
  have dropped : ∀ table ∈ tables, keep table = false → ∀ name ∈ table.declared,
      name ∈ start.known := by
    intro table listed gone name member
    exact within name (retired table listed gone name member)
  -- The formulas that are still pending are in order by themselves.
  have still : start.pending = (tables.filter keep).map Table.toFormula := pending
  obtain ⟨fired, waiting, spread⟩ := Pass.scan_in_order
    (fun table listed => distinct table (List.mem_filter.mp listed).1)
    (fun table listed => speaks table (List.mem_filter.mp listed).1) (ordered.filter dropped)
  rw [← still] at fired waiting spread
  obtain ⟨passes, saturated⟩ := passes_of_waiting waiting
  refine ⟨fired, waiting, ?_, ?_, passes, saturated⟩
  · rintro rfl
    exact fired
  · intro table listed name member
    cases kept : keep table with
    | true => exact spread table (List.mem_filter.mpr ⟨listed, kept⟩) name member
    | false => exact Pass.within_scan _ _ name (dropped table listed kept name member)

end Runs

open Orbit in
/--
An axis and an eccentricity give both apsides in one pass.

The first formula yields the periapsis radius, which the second one needs for the other radius. The
last one finds all of its variables known. An earlier addition has retired none of them.
-/
theorem single_pass_in_order_axis :
    let tables : List (Table Variable Float) := [periapsis, apsisSum, apsisRatio]
    let additions : List (List (Variable × Float)) := [[(.semiMajorAxis, 8)]]
    let system := System.run ⟨∅, tables.map Table.toFormula⟩ additions
    let start := system.supply [(.eccentricity, 0.5)]
    let first := Pass.scan start.known start.pending
    (∀ table ∈ tables, table.declared.Nodup) ∧
    (∀ table ∈ tables, ∀ name ∈ table.declared, table.Speaks name) ∧ InOrder start.known tables ∧
    first.derived.map Prod.fst = [.periRadius, .apoRadius] ∧
    first.fired = system.pending ∧ first.waiting = [] ∧
    (∀ table ∈ tables, ∀ name ∈ table.declared, name ∈ first.known) ∧
    start.passes = [first, ⟨[], [], [], first.known⟩] ∧
    system.add [(.eccentricity, 0.5)] = ⟨first.known, []⟩ := by
  intro tables additions system start first
  have distinct : ∀ table ∈ tables, table.declared.Nodup := by decide
  have speaks : ∀ table ∈ tables, ∀ name ∈ table.declared, table.Speaks name := by
    -- Each of the three formulas has a solver for each of its variables.
    intro table listed
    have solves : ∃ names, (table, names) ∈ solvable ∧ ∀ name ∈ table.declared, name ∈ names := by
      simp only [tables, List.mem_cons, List.not_mem_nil, or_false] at listed
      rcases listed with rfl | rfl | rfl
      · exact ⟨[.periRadius, .semiMajorAxis, .eccentricity], by simp [solvable], by decide⟩
      · exact ⟨[.periRadius, .apoRadius, .semiMajorAxis], by simp [solvable], by decide⟩
      · exact ⟨[.eccentricity, .apoRadius, .periRadius], by simp [solvable], by decide⟩
    obtain ⟨names, entry, complete⟩ := solves
    intro name member
    exact (solvesFor_of_mem_solvable _ entry).speaks name member (complete name member)
  -- Each formula is put behind those in front of it, the first one behind none.
  have ordered : InOrder start.known tables :=
    (((inOrder_nil _).concat (by decide +kernel)).concat (by decide +kernel)).concat
      (by decide +kernel)
  have derived : first.derived.map Prod.fst = [.periRadius, .apoRadius] := by decide +kernel
  have derives : first.derived ≠ [] := by
    intro nothing
    simp [nothing] at derived
  obtain ⟨fired, waiting, -, spread, passes, last⟩ :=
    single_pass_in_order distinct speaks ∅ additions [(.eccentricity, 0.5)] ordered
  rw [if_neg derives] at passes
  exact ⟨distinct, speaks, ordered, derived, fired, waiting, spread, passes, last⟩

end System

end TwoBody
