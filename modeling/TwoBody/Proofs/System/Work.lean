import Mathlib.Data.List.Nodup
import Mathlib.Data.List.Perm.Basic
import TwoBody.Proofs.System.Saturation

/-!
Work: how many passes a run makes, and which calls it makes to its formulas.

Nothing is assumed about the formulas, which may be ready at any time and yield bindings that make
nothing new known. What bounds the work is that a formula that fires is pending no more.
-/

namespace TwoBody

open Std

/-- A call to one of the formulas of a system, which are told apart by their places. -/
inductive Call where
  /-- The formula is asked whether it is ready. -/
  | check (place : Nat)
  /-- The formula is asked for a binding. -/
  | solve (place : Nat)
  deriving DecidableEq, Repr

namespace Call

/-- The place of the formula that is called. -/
def place : Call → Nat
  | check place => place
  | solve place => place

/-- The place of the formula, if it is asked whether it is ready. -/
def checked? : Call → Option Nat
  | check place => some place
  | solve _ => none

/-- The place of the formula, if it is asked for a binding. -/
def solved? : Call → Option Nat
  | check _ => none
  | solve place => some place

/--
What successive calls do to the formulas that may be called.

At first these are the formulas at some places, and in the end those at the places that are left.
-/
structure Retire (places : List Nat) (calls : List Call) (left : List Nat) : Prop where
  /-- The places that are left are some of those before, in the same order. -/
  sublist : left.Sublist places
  /-- Only formulas at the given places are called. -/
  mem_places : ∀ call ∈ calls, call.place ∈ places
  /-- A formula that was asked for a binding is not left. -/
  not_mem_left : ∀ place, .solve place ∈ calls → place ∉ left
  /-- A formula that was asked for a binding is not called again. -/
  pairwise : calls.Pairwise fun earlier later =>
    ∀ place, earlier = .solve place → later.place ≠ place

/-- Without calls all formulas are left. -/
theorem Retire.nil (places : List Nat) : Retire places [] places :=
  ⟨.refl places, by simp, by simp, .nil⟩

/-- Calls can be followed by calls to the formulas that they leave. -/
theorem Retire.append {places middle left : List Nat} {front back : List Call}
    (first : Retire places front middle) (second : Retire middle back left) :
    Retire places (front ++ back) left where
  sublist := second.sublist.trans first.sublist
  mem_places call member := by
    rcases List.mem_append.mp member with early | late
    · exact first.mem_places call early
    · exact first.sublist.subset (second.mem_places call late)
  not_mem_left place member := by
    rcases List.mem_append.mp member with early | late
    · exact fun still => first.not_mem_left place early (second.sublist.subset still)
    · exact second.not_mem_left place late
  pairwise := by
    refine List.pairwise_append.mpr ⟨first.pairwise, second.pairwise, ?_⟩
    rintro earlier early later late place rfl same
    -- The later calls are to formulas that are left, and this one is not.
    exact first.not_mem_left place early (same ▸ second.mem_places later late)

/-- A formula that is ready and asked for a binding is left no more. -/
theorem Retire.fire {place : Nat} {places : List Nat} (apart : place ∉ places) :
    Retire (place :: places) [.check place, .solve place] places where
  sublist := .cons place (.refl places)
  mem_places := by simp [Call.place]
  not_mem_left := by simp [apart]
  pairwise := by simp

/-- A formula that is not ready is left in front of what the calls to the others leave. -/
theorem Retire.wait {place : Nat} {places left : List Nat} {calls : List Call}
    (apart : place ∉ places) (others : Retire places calls left) :
    Retire (place :: places) (.check place :: calls) (place :: left) where
  sublist := others.sublist.cons_cons place
  mem_places call member := by
    rcases List.mem_cons.mp member with rfl | member
    · exact List.mem_cons_self
    · exact List.mem_cons_of_mem place (others.mem_places call member)
  not_mem_left asked member := by
    have later : .solve asked ∈ calls := by simpa using member
    -- The formula that waits is not among those that were asked for a binding.
    have different : asked ≠ place := by
      rintro rfl
      exact apart (others.mem_places _ later)
    simp [different, others.not_mem_left asked later]
  pairwise := List.pairwise_cons.mpr ⟨by simp, others.pairwise⟩

/-- No formula is asked for a binding twice. -/
theorem Retire.nodup_solved {places left : List Nat} {calls : List Call}
    (retire : Retire places calls left) : (calls.filterMap solved?).Nodup := by
  refine List.pairwise_filterMap.mpr (retire.pairwise.imp ?_)
  intro earlier later apart place first other second same
  cases earlier with
  | check => simp [solved?] at first
  | solve =>
    cases later with
    | check => simp [solved?] at second
    | solve =>
      simp only [solved?, Option.some.injEq] at first second
      subst first second
      exact apart _ rfl same.symm

/-- After a formula was asked for a binding it is not called again. -/
theorem Retire.not_mem_after {places left : List Nat} {before after : List Call} {place : Nat}
    (retire : Retire places (before ++ .solve place :: after) left) :
    .check place ∉ after ∧ .solve place ∉ after := by
  -- Every call after this one is to a formula at another place.
  have later := (List.pairwise_cons.mp (List.pairwise_append.mp retire.pairwise).2.1).1
  exact ⟨fun member => later _ member place rfl rfl, fun member => later _ member place rfl rfl⟩

end Call

variable {K V : Type} [Ord K] [TransOrd K]

namespace Pass

/-- The calls that one pass makes, over formulas with their places. -/
def calls (known : Bindings K V) : List (Formula K V × Nat) → List Call
  | [] => []
  | (formula, place) :: rest =>
    if formula.ready known then
      .check place :: .solve place :: calls (formula.fire known) rest
    else .check place :: calls known rest

/-- The formulas that one pass leaves waiting, with their places. -/
def left (known : Bindings K V) : List (Formula K V × Nat) → List (Formula K V × Nat)
  | [] => []
  | (formula, place) :: rest =>
    if formula.ready known then left (formula.fire known) rest
    else (formula, place) :: left known rest

/-- Without their places, the formulas that are left are those that the pass leaves waiting. -/
theorem map_fst_left (known : Bindings K V) (placed : List (Formula K V × Nat)) :
    (left known placed).map Prod.fst = (scan known (placed.map Prod.fst)).waiting := by
  -- The induction is on the formulas still to ask.
  induction placed generalizing known with
  | nil => rfl
  | cons entry rest ih =>
    obtain ⟨formula, place⟩ := entry
    cases ready : formula.ready known with
    | true =>
      rw [left, if_pos ready, List.map_cons, scan_cons_ready ready]
      exact ih (formula.fire known)
    | false =>
      rw [left, if_neg (by simp [ready]), List.map_cons, List.map_cons, scan_cons_unready ready]
      exact congrArg (formula :: ·) (ih known)

/-- What is left of formulas with places is a part of them, in the same order. -/
theorem left_sublist (known : Bindings K V) (placed : List (Formula K V × Nat)) :
    (left known placed).Sublist placed := by
  induction placed generalizing known with
  | nil => exact .refl []
  | cons entry rest ih =>
    obtain ⟨formula, place⟩ := entry
    rw [left]
    split
    · exact (ih (formula.fire known)).cons _
    · exact (ih known).cons_cons _

/-- The formulas that fire in a pass and those that it leaves waiting are all that it goes over. -/
theorem perm_fired_append_waiting (known : Bindings K V) (formulas : List (Formula K V)) :
    ((scan known formulas).fired ++ (scan known formulas).waiting).Perm formulas := by
  induction formulas generalizing known with
  | nil => exact .refl []
  | cons formula rest ih =>
    cases ready : formula.ready known with
    | true =>
      rw [scan_cons_ready ready]
      exact (ih (formula.fire known)).cons formula
    | false =>
      rw [scan_cons_unready ready]
      exact List.perm_middle.trans ((ih known).cons formula)

/-- A pass asks every formula once whether it is ready, in order. -/
theorem checked_calls (known : Bindings K V) (placed : List (Formula K V × Nat)) :
    (calls known placed).filterMap Call.checked? = placed.map Prod.snd := by
  induction placed generalizing known with
  | nil => rfl
  | cons entry rest ih =>
    obtain ⟨formula, place⟩ := entry
    rw [calls]
    split
    · simp [List.filterMap_cons, Call.checked?, ih]
    · simp [Call.checked?, ih]

/-- A pass asks exactly the formulas for a binding that fire in it, in order. -/
theorem solved_calls {formulas : List (Formula K V)} (known : Bindings K V)
    {placed : List (Formula K V × Nat)}
    (located : ∀ entry ∈ placed, formulas[entry.2]? = some entry.1) :
    ((calls known placed).filterMap Call.solved?).map (formulas[·]?) =
      (scan known (placed.map Prod.fst)).fired.map some := by
  induction placed generalizing known with
  | nil => rfl
  | cons entry rest ih =>
    obtain ⟨formula, place⟩ := entry
    have here : formulas[place]? = some formula := located _ List.mem_cons_self
    have others := fun entry member => located entry (List.mem_cons_of_mem _ member)
    cases ready : formula.ready known with
    | true =>
      -- The formula fires, so it is the first one that is asked for a binding.
      rw [calls, if_pos ready, List.map_cons, scan_cons_ready ready]
      simp [List.filterMap_cons, Call.solved?, here, ih (formula.fire known) others]
    | false =>
      rw [calls, if_neg (by simp [ready]), List.map_cons, scan_cons_unready ready]
      simp [List.filterMap_cons, Call.solved?, ih known others]

/-- A pass retires the formulas that it asks for a binding. -/
theorem retire_calls (known : Bindings K V) {placed : List (Formula K V × Nat)}
    (distinct : (placed.map Prod.snd).Nodup) :
    Call.Retire (placed.map Prod.snd) (calls known placed)
      ((left known placed).map Prod.snd) := by
  induction placed generalizing known with
  | nil => exact .nil []
  | cons entry rest ih =>
    obtain ⟨formula, place⟩ := entry
    obtain ⟨apart, distinct⟩ := List.nodup_cons.mp distinct
    rw [calls, left]
    split
    · exact (Call.Retire.fire apart).append (ih (formula.fire known) distinct)
    · exact (ih known distinct).wait apart

end Pass

namespace System

/-- All passes that the additions of a run make, in order. -/
def passesAlong (system : System K V) : List (List (K × V)) → List (Pass K V)
  | [] => []
  | supplied :: rest => (system.supply supplied).passes ++ (system.add supplied).passesAlong rest

/-- Every pass but the last one takes at least one formula out of the pending ones. -/
theorem length_passes_add_pending (system : System K V) :
    system.passes.length + system.saturated.pending.length ≤ system.pending.length + 1 := by
  induction system using saturated_induction with
  | idle system derives =>
    have total := Pass.length_fired_add_waiting system.known system.pending
    rw [passes_eq, saturated_eq, if_pos derives, if_pos derives]
    simp only [List.length_singleton, afterPass]
    omega
  | productive system derives ih =>
    have fewer := Pass.length_waiting_lt derives
    rw [passes_eq, saturated_eq, if_neg derives, if_neg derives]
    simp only [List.length_cons, afterPass] at ih ⊢
    omega

/-- A run makes one pass for each addition, and at most one more for each formula it retires. -/
theorem length_passesAlong_add_pending (system : System K V) (additions : List (List (K × V))) :
    (system.passesAlong additions).length + (system.run additions).pending.length ≤
      additions.length + system.pending.length := by
  -- The induction is on the additions still to make; the pending formulas pay for their passes.
  induction additions generalizing system with
  | nil => simp [passesAlong, run]
  | cons supplied rest ih =>
    have first := length_passes_add_pending (system.supply supplied)
    have others := ih (system.add supplied)
    have pending : (system.supply supplied).pending = system.pending := rfl
    have last : system.run (supplied :: rest) = (system.add supplied).run rest := rfl
    rw [pending] at first
    rw [passesAlong, last, List.length_append, List.length_cons]
    simp only [add] at others ⊢
    omega

end System

/-- A system whose pending formulas are numbered by their places among all formulas. -/
structure Numbered (K V : Type) [Ord K] [TransOrd K] where
  /-- The bindings known so far. -/
  known : Bindings K V
  /-- The formulas that have not fired yet, with their places. -/
  pending : List (Formula K V × Nat)

namespace Numbered

/-- The system without the numbers. -/
def plain (system : Numbered K V) : System K V :=
  ⟨system.known, system.pending.map Prod.fst⟩

/-- The places of the pending formulas. -/
def places (system : Numbered K V) : List Nat :=
  system.pending.map Prod.snd

/-- The numbered system over the given formulas in which nothing is known. -/
def ofFormulas (formulas : List (Formula K V)) : Numbered K V :=
  ⟨∅, formulas.zipIdx⟩

/-- The numbered system with more bindings known. -/
def supply (system : Numbered K V) (supplied : List (K × V)) : Numbered K V :=
  { system with known := system.known.merge supplied }

/-- The numbered system that one pass leaves. -/
def afterPass (system : Numbered K V) : Numbered K V :=
  ⟨system.plain.afterPass.known, Pass.left system.known system.pending⟩

/-- The numbered system that so many passes leave. -/
def afterPasses (system : Numbered K V) : Nat → Numbered K V
  | 0 => system
  | passes + 1 => system.afterPass.afterPasses passes

/-- The systems in which so many passes start, in order. -/
def stagesOf (system : Numbered K V) : Nat → List (Numbered K V)
  | 0 => []
  | passes + 1 => system :: system.afterPass.stagesOf passes

/-- The numbered system once bindings are added, with the passes that this takes. -/
def add (system : Numbered K V) (supplied : List (K × V)) : Numbered K V :=
  (system.supply supplied).afterPasses (system.supply supplied).plain.passes.length

/-- The systems in which the passes of a run start, in order. -/
def stages (system : Numbered K V) : List (List (K × V)) → List (Numbered K V)
  | [] => []
  | supplied :: rest =>
    (system.supply supplied).stagesOf (system.supply supplied).plain.passes.length ++
      (system.add supplied).stages rest

/-- The calls that a pass makes to the pending formulas, in order. -/
def calls (system : Numbered K V) : List Call :=
  Pass.calls system.known system.pending

/-- The pass that starts in this system. -/
def pass (system : Numbered K V) : Pass K V :=
  Pass.scan system.plain.known system.plain.pending

/-- All calls that the additions of a run make to the formulas, in order. -/
def log (system : Numbered K V) (additions : List (List (K × V))) : List Call :=
  (system.stages additions).flatMap calls

/-- A pass leaves the same system whether the formulas are numbered or not. -/
theorem plain_afterPass (system : Numbered K V) :
    system.afterPass.plain = system.plain.afterPass := by
  simp only [plain, afterPass, System.afterPass, Pass.map_fst_left]

/-- As many passes as a saturation takes leave the saturated system. -/
theorem plain_afterPasses (system : Numbered K V) :
    (system.afterPasses system.plain.passes.length).plain = system.plain.saturated := by
  -- The induction is on the passes of the system without the numbers.
  generalize same : system.plain = plain
  induction plain using System.saturated_induction generalizing system with
  | idle plain derives =>
    rw [System.passes_eq, System.saturated_eq, if_pos derives, if_pos derives, ← same]
    exact system.plain_afterPass
  | productive plain derives ih =>
    rw [System.passes_eq, System.saturated_eq, if_neg derives, if_neg derives, List.length_cons,
      afterPasses]
    exact ih system.afterPass (by rw [plain_afterPass, same])

/-- An addition leaves the same system whether the formulas are numbered or not. -/
theorem plain_add (system : Numbered K V) (supplied : List (K × V)) :
    (system.add supplied).plain = system.plain.add supplied :=
  (system.supply supplied).plain_afterPasses

/-- The passes of a saturation start in as many systems, one after the other. -/
theorem map_pass_stagesOf (system : Numbered K V) :
    (system.stagesOf system.plain.passes.length).map pass = system.plain.passes := by
  generalize same : system.plain = plain
  induction plain using System.saturated_induction generalizing system with
  | idle plain derives =>
    subst same
    rw [System.passes_eq, if_pos derives]
    rfl
  | productive plain derives ih =>
    subst same
    rw [System.passes_eq, if_neg derives, List.length_cons, stagesOf, List.map_cons,
      ih system.afterPass (plain_afterPass system)]
    rfl

/-- The passes of a run start in its stages. -/
theorem map_pass_stages (system : Numbered K V) (additions : List (List (K × V))) :
    (system.stages additions).map pass = system.plain.passesAlong additions := by
  induction additions generalizing system with
  | nil => rfl
  | cons supplied rest ih =>
    rw [stages, System.passesAlong, List.map_append, map_pass_stagesOf, ih, plain_add]
    rfl

/-- The passes retire the formulas that they ask for a binding. -/
theorem retire_stagesOf (passes : Nat) {system : Numbered K V} (distinct : system.places.Nodup) :
    Call.Retire system.places ((system.stagesOf passes).flatMap calls)
      (system.afterPasses passes).places := by
  -- Each pass calls only those formulas that the passes before it have left.
  induction passes generalizing system with
  | zero => exact .nil system.places
  | succ passes ih =>
    have first := Pass.retire_calls system.known distinct
    have still : system.afterPass.places.Nodup := first.sublist.nodup distinct
    exact first.append (ih still)

/-- A run retires the formulas that it asks for a binding. -/
theorem retire_log (additions : List (List (K × V))) {system : Numbered K V}
    (distinct : system.places.Nodup) :
    ∃ left, Call.Retire system.places (system.log additions) left := by
  induction additions generalizing system with
  | nil => exact ⟨system.places, .nil system.places⟩
  | cons supplied rest ih =>
    -- Supplying bindings calls no formula, and the passes of the addition come after that.
    have supply : (system.supply supplied).places.Nodup := distinct
    have first := retire_stagesOf (system.supply supplied).plain.passes.length supply
    have still : (system.add supplied).places.Nodup := first.sublist.nodup supply
    obtain ⟨left, others⟩ := ih still
    refine ⟨left, ?_⟩
    rw [log, stages, List.flatMap_append]
    exact first.append others

/-- Every pending formula has the place that it has in the list of all formulas. -/
def Located (formulas : List (Formula K V)) (system : Numbered K V) : Prop :=
  -- No other formula is numbered in its place.
  ∀ entry ∈ system.pending, formulas[entry.2]? = some entry.1

/-- A pass leaves every pending formula in its place. -/
theorem Located.afterPass {formulas : List (Formula K V)} {system : Numbered K V}
    (located : Located formulas system) : Located formulas system.afterPass := by
  intro entry member
  exact located entry ((Pass.left_sublist system.known system.pending).subset member)

/-- Passes leave every pending formula in its place. -/
theorem Located.afterPasses {formulas : List (Formula K V)} (passes : Nat) {system : Numbered K V}
    (located : Located formulas system) : Located formulas (system.afterPasses passes) := by
  induction passes generalizing system with
  | zero => exact located
  | succ passes ih => exact ih located.afterPass

/-- In every system that a pass starts in, the formulas have their places. -/
theorem Located.of_mem_stagesOf {formulas : List (Formula K V)} {passes : Nat}
    {system : Numbered K V} (located : Located formulas system) :
    ∀ stage ∈ system.stagesOf passes, Located formulas stage := by
  induction passes generalizing system with
  | zero => simp [stagesOf]
  | succ passes ih =>
    intro stage member
    rcases List.mem_cons.mp member with rfl | later
    · exact located
    · exact ih located.afterPass stage later

/-- In every stage of a run the formulas have their places. -/
theorem Located.of_mem_stages {formulas : List (Formula K V)} {additions : List (List (K × V))}
    {system : Numbered K V} (located : Located formulas system) :
    ∀ stage ∈ system.stages additions, Located formulas stage := by
  induction additions generalizing system with
  | nil => simp [stages]
  | cons supplied rest ih =>
    intro stage member
    have supply : Located formulas (system.supply supplied) := located
    rcases List.mem_append.mp member with early | late
    · exact supply.of_mem_stagesOf stage early
    · exact ih (supply.afterPasses _) stage late

/-- The formulas asked for a binding are those that fire in the passes, in the same order. -/
theorem solved_log {formulas : List (Formula K V)} (additions : List (List (K × V)))
    {system : Numbered K V} (located : Located formulas system) :
    ((system.log additions).filterMap Call.solved?).map (formulas[·]?) =
      ((system.plain.passesAlong additions).flatMap Pass.fired).map some := by
  rw [← map_pass_stages, log, List.filterMap_flatMap, List.map_flatMap, List.flatMap_map,
    List.map_flatMap]
  -- In each stage these are the formulas that fire in its pass.
  exact List.flatMap_congr fun stage member =>
    Pass.solved_calls stage.known (located.of_mem_stages stage member)

/-- The formulas asked whether they are ready are those that the passes go over. -/
theorem perm_checked_log {formulas : List (Formula K V)} (additions : List (List (K × V)))
    {system : Numbered K V} (located : Located formulas system) :
    (((system.log additions).filterMap Call.checked?).map (formulas[·]?)).Perm
      (((system.plain.passesAlong additions).flatMap fun pass =>
        pass.fired ++ pass.waiting).map some) := by
  rw [← map_pass_stages, log, List.filterMap_flatMap, List.map_flatMap, List.flatMap_map,
    List.map_flatMap]
  refine List.Perm.flatMap_left _ fun stage member => ?_
  have here : stage.pending.map (fun entry => formulas[entry.2]?) =
      (stage.pending.map Prod.fst).map some := by
    rw [List.map_map]
    exact List.map_congr_left fun entry found => located.of_mem_stages stage member entry found
  have asked : (stage.calls.filterMap Call.checked?).map (formulas[·]?) =
      (stage.pending.map Prod.fst).map some := by
    rw [calls, Pass.checked_calls, List.map_map]
    exact here
  -- Each of the formulas that a pass goes over either fires or is left.
  rw [asked]
  exact (Pass.perm_fired_append_waiting _ _).symm.map some

end Numbered

namespace System

/--
The work of a run is bounded by its additions and its formulas, whatever the formulas do.

There is one pass for each addition, and one more for each formula at most. The log of all calls to
the formulas names them by their places: those asked whether they are ready are all that the passes
go over, and those asked for a binding are the ones that fire. No formula is asked for a binding
twice, and none is called again once it was.
-/
theorem passes_and_calls_bounded (formulas : List (Formula K V))
    (additions : List (List (K × V))) :
    let passes := (ofFormulas formulas).passesAlong additions
    let log := (Numbered.ofFormulas formulas).log additions
    passes.length ≤ additions.length + formulas.length ∧
    ((log.filterMap Call.checked?).map (formulas[·]?)).Perm
      ((passes.flatMap fun pass => pass.fired ++ pass.waiting).map some) ∧
    (log.filterMap Call.solved?).map (formulas[·]?) = (passes.flatMap Pass.fired).map some ∧
    (log.filterMap Call.solved?).Nodup ∧
    ∀ before place after, log = before ++ .solve place :: after →
      .check place ∉ after ∧ .solve place ∉ after := by
  intro passes log
  have bounded := length_passesAlong_add_pending (ofFormulas formulas) additions
  have plain : (Numbered.ofFormulas formulas).plain = ofFormulas formulas := by
    simp only [Numbered.plain, Numbered.ofFormulas, ofFormulas, List.zipIdx_map_fst]
  have located : (Numbered.ofFormulas formulas).Located formulas :=
    fun entry member => List.mem_zipIdx_iff_getElem?.mp member
  have checked := Numbered.perm_checked_log additions located
  have solved := Numbered.solved_log additions located
  rw [plain] at checked solved
  -- The places of the formulas are their positions, so no two of them are the same.
  have distinct : (Numbered.ofFormulas formulas).places.Nodup := by
    simp only [Numbered.places, Numbered.ofFormulas, List.zipIdx_map_snd]
    exact List.nodup_range'
  obtain ⟨left, retire⟩ := Numbered.retire_log additions distinct
  refine ⟨Nat.le_trans (Nat.le_add_right _ _) bounded, checked, solved, retire.nodup_solved, ?_⟩
  intro before place after split
  have retire : Call.Retire _ log left := retire
  rw [split] at retire
  exact retire.not_mem_after

/--
The bound on the passes is reached where formulas depend on each other against their order.

Here the third formula yields a variable that it does not declare, and the second one a variable
that is known already; both make another pass necessary. The first formula is asked in four passes
whether it is ready, and only then for a binding.
-/
theorem passes_and_calls_bounded_tight :
    let formulas : List (Formula Nat Nat) :=
      [{ declared := [1], solve := fun _ => some (1, 10), ready := fun known => 8 ∈ known },
       { declared := [2], solve := fun _ => some (0, 20), ready := fun known => 7 ∈ known },
       { declared := [0], solve := fun _ => some (7, 30), ready := fun known => 0 ∈ known }]
    let additions := [[(0, 5)], [(8, 6)]]
    let passes := (ofFormulas formulas).passesAlong additions
    let log := (Numbered.ofFormulas formulas).log additions
    let before : List Call := [.check 0, .check 1, .check 2, .solve 2, .check 0, .check 1]
    let after : List Call := [.check 0, .check 0, .solve 0]
    passes.length = additions.length + formulas.length ∧
    passes.length ≤ additions.length + formulas.length ∧
    ((log.filterMap Call.checked?).map (formulas[·]?)).Perm
      ((passes.flatMap fun pass => pass.fired ++ pass.waiting).map some) ∧
    (log.filterMap Call.solved?).map (formulas[·]?) = (passes.flatMap Pass.fired).map some ∧
    (log.filterMap Call.solved?).Nodup ∧
    log = before ++ .solve 1 :: after ∧ .check 1 ∉ after ∧ .solve 1 ∉ after := by
  intro formulas additions passes log before after
  have split : log = before ++ .solve 1 :: after := by decide +kernel
  obtain ⟨bounded, checked, solved, distinct, later⟩ := passes_and_calls_bounded formulas additions
  exact ⟨by decide +kernel, bounded, checked, solved, distinct, split, later before 1 after split⟩

end System

end TwoBody
