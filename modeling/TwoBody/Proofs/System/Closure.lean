import Mathlib.Data.Set.Basic
import Mathlib.Order.Bounds.Basic
import TwoBody.Proofs.Orbit.Solvers
import TwoBody.Proofs.System.Saturation

/-!
Closure: the variables that a run makes known are the least set closed under the formulas.

A formula that fires without a value has no variable left that it could make known, so retiring it
blocks no derivation. The least closed set depends on no order, neither of the formulas nor of the
additions.
-/

namespace TwoBody

open Std

variable {K V : Type} [Ord K] [TransOrd K]

namespace Table

/--
A formula each of whose solvers always answers or never does, as far as bindings are admitted.

The variables whose solvers answer are said to be spoken for.
-/
structure Decisive (admitted : Bindings K V → Prop) (spoken : K → Prop) (table : Table K V) :
    Prop where
  /-- The declared variables are distinct. -/
  distinct : table.declared.Nodup
  /-- The solver of a variable that is spoken for answers once the other variables are known. -/
  answers : ∀ name ∈ table.declared, spoken name → ∀ known, admitted known →
    table.OthersKnown name known → (table.answer name known).isSome
  /-- The solver of another variable yields no value then. -/
  silent : ∀ name ∈ table.declared, ¬ spoken name → ∀ known, admitted known →
    table.OthersKnown name known → table.answer name known = none

/-- Solvers that are silent or speak decide the formula, whatever is known. -/
theorem decisive_of_silent_or_speaks {table : Table K V} (distinct : table.declared.Nodup)
    (either : ∀ name ∈ table.declared, table.Silent name ∨ table.Speaks name) :
    table.Decisive (fun _ => True) table.Speaks where
  distinct := distinct
  answers _ _ speaks known _ others := speaks known others
  silent name member quiet known _ _ := (either name member).resolve_right quiet known

/-- A decisive formula only yields values for variables that are spoken for. -/
theorem Decisive.spoken_of_solve {admitted : Bindings K V → Prop} {spoken : K → Prop}
    {table : Table K V} (decisive : table.Decisive admitted spoken) {known : Bindings K V}
    (admits : admitted known) {name : K} {value : V}
    (yields : table.solve known = some (name, value)) :
    name ∈ table.declared ∧ table.OthersKnown name known ∧ spoken name := by
  -- The variable is declared, and is the only one that is missing.
  obtain ⟨only, answered⟩ := solve_eq_some_iff.mp yields
  have absent : name ∈ missing table.declared known := by simp [only]
  have declared : name ∈ table.declared := (mem_missing.mp absent).1
  have others := othersKnown_of_missing only
  refine ⟨declared, others, ?_⟩
  -- A solver of a variable that is not spoken for would have been silent.
  by_contra unspoken
  rw [decisive.silent name declared unspoken known admits others] at answered
  exact absurd answered (by simp)

/-- A decisive formula that fires leaves none of its variables unknown that are spoken for. -/
theorem Decisive.mem_fire {admitted : Bindings K V → Prop} {spoken : K → Prop} {table : Table K V}
    (decisive : table.Decisive admitted spoken) {known : Bindings K V} (admits : admitted known)
    (ready : atMostOneMissing table.declared known = true) {name : K}
    (member : name ∈ table.declared) (speaks : spoken name) :
    name ∈ table.toFormula.fire known := by
  by_cases present : name ∈ known
  · -- Whatever was known before is still known.
    exact table.toFormula.within_fire known name present
  · -- A variable that is missing is the only one, so its solver answers.
    have absent : name ∈ missing table.declared known := mem_missing.mpr ⟨member, present⟩
    have only := missing_eq_singleton ready absent
    have answered := decisive.answers name member speaks known admits (othersKnown_of_missing only)
    obtain ⟨value, answered⟩ := Option.isSome_iff_exists.mp answered
    have yields : table.toFormula.solve known = some (name, value) :=
      solve_eq_some_iff.mpr ⟨only, answered⟩
    exact Formula.mem_fire_of_solve yields

end Table

/-- With all other variables of a formula, the set has each variable that is spoken for. -/
def ClosedUnder (spoken : Table K V → K → Prop) (tables : List (Table K V)) (names : Set K) :
    Prop :=
  -- Each formula gives one rule for each of its variables that are spoken for.
  ∀ table ∈ tables, ∀ name ∈ table.declared, spoken table name →
    (∀ other ∈ table.declared, other ≠ name → other ∈ names) → name ∈ names

/-- A decisive formula that fires makes nothing known outside a closed set. -/
theorem ClosedUnder.sound_fire [LawfulEqOrd K] {admitted : Bindings K V → Prop}
    {spoken : Table K V → K → Prop} {tables : List (Table K V)} {names : Set K}
    (closed : ClosedUnder spoken tables names) {table : Table K V} (listed : table ∈ tables)
    (decisive : table.Decisive admitted (spoken table)) {known : Bindings K V}
    (admits : admitted known) (sound : ∀ name ∈ known, name ∈ names) :
    ∀ name ∈ table.toFormula.fire known, name ∈ names := by
  intro name member
  rcases Bindings.mem_merge.mp member with before | ⟨value, given⟩
  · exact sound name before
  · -- What the formula yields follows from its other variables, which are in the set.
    have yields : table.solve known = some (name, value) := Option.mem_toList.mp given
    obtain ⟨declared, others, speaks⟩ := decisive.spoken_of_solve admits yields
    exact closed table listed name declared speaks fun other member different =>
      sound other (others other member different)

/-- The variables that some addition of a run supplies. -/
def Supplied (additions : List (List (K × V))) : Set K :=
  {name | ∃ supplied ∈ additions, ∃ value, (name, value) ∈ supplied}

omit [Ord K] [TransOrd K] in
/-- Additions that are made one after the other supply the variables of both. -/
theorem supplied_append (front back : List (List (K × V))) :
    Supplied (front ++ back) = Supplied front ∪ Supplied back := by
  ext name
  simp [Supplied, or_and_right, exists_or]

namespace System

/-- Firings forget no variable. -/
theorem Settles.within {system later : System K V} (settles : Settles system later) :
    system.known.Within later.known :=
  settles.preserves (motive := fun state => system.known.Within state.known)
    (fun fires within => within.trans fires.within) (.refl _)

/-- An addition forgets no variable. -/
theorem within_add (system : System K V) (supplied : List (K × V)) :
    system.known.Within (system.add supplied).known :=
  (Bindings.within_merge system.known supplied).trans (settles_add system supplied).within

/-- A run forgets no variable. -/
theorem within_run (system : System K V) (additions : List (List (K × V))) :
    system.known.Within (system.run additions).known := by
  -- The induction is on the additions still to make.
  induction additions generalizing system with
  | nil => exact .refl system.known
  | cons supplied rest ih => exact (within_add system supplied).trans (ih (system.add supplied))

/-- Every supplied variable is known after the run. -/
theorem mem_run_of_supplied {system : System K V} {additions : List (List (K × V))} {name : K}
    (named : name ∈ Supplied additions) : name ∈ (system.run additions).known := by
  -- It is known after the addition that supplies it, and nothing after that forgets it.
  obtain ⟨supplied, member, value, given⟩ := named
  obtain ⟨front, back, rfl⟩ := List.append_of_mem member
  rw [run_append]
  have before : name ∈ ((system.run front).supply supplied).known :=
    Bindings.mem_merge_of_mem (system.run front).known given
  have after := (settles_add (system.run front) supplied).within name before
  exact within_run ((system.run front).add supplied) back name after

/--
What holds along a run of decisive formulas, for any set that is closed under them.

Nothing outside the set is known, and a formula that is pending no more has made known all of its
variables that are spoken for.
-/
structure Closing (admitted : Bindings K V → Prop) (spoken : Table K V → K → Prop)
    (tables : List (Table K V)) (names : Set K) (system : System K V) : Prop where
  /-- The pending formulas are some of the given ones. -/
  pending_sublist : system.pending.Sublist (tables.map Table.toFormula)
  /-- The known bindings are admitted. -/
  admits : admitted system.known
  /-- Every known variable is in the set. -/
  sound : ∀ name ∈ system.known, name ∈ names
  /-- A formula is pending, or all of its variables that are spoken for are known. -/
  settled : ∀ table ∈ tables, table.toFormula ∈ system.pending ∨
    ∀ name ∈ table.declared, spoken table name → name ∈ system.known

/-- Formulas and additions that keep to admitted bindings, for which every formula is decisive. -/
structure Decided (admitted : Bindings K V → Prop) (spoken : Table K V → K → Prop)
    (tables : List (Table K V)) (additions : List (List (K × V))) : Prop where
  /-- Every formula is decisive as far as bindings are admitted. -/
  decisive : ∀ table ∈ tables, table.Decisive admitted (spoken table)
  /-- A formula that fires keeps to admitted bindings. -/
  keeps : ∀ table ∈ tables, ∀ known, admitted known →
    atMostOneMissing table.declared known = true → admitted (table.toFormula.fire known)
  /-- Each addition of the run keeps to admitted bindings. -/
  supplies : ∀ supplied ∈ additions, ∀ known, admitted known → admitted (known.merge supplied)
  /-- It is admitted that nothing is known. -/
  start : admitted ∅

section Closing

variable [LawfulEqOrd K] {admitted : Bindings K V → Prop} {spoken : Table K V → K → Prop}
  {tables : List (Table K V)} {additions : List (List (K × V))} {names : Set K}

/-- Supplying variables of the set keeps within it, and unsettles no formula. -/
theorem Closing.supply {system : System K V} (closing : Closing admitted spoken tables names system)
    {supplied : List (K × V)} (admits : admitted (system.known.merge supplied))
    (named : ∀ binding ∈ supplied, binding.1 ∈ names) :
    Closing admitted spoken tables names (system.supply supplied) where
  pending_sublist := closing.pending_sublist
  admits := admits
  sound name member := by
    -- A variable was known before, or is supplied now.
    rcases Bindings.mem_merge.mp member with before | ⟨value, given⟩
    · exact closing.sound name before
    · exact named (name, value) given
  settled table listed := by
    refine (closing.settled table listed).imp_right fun settled name member speaks => ?_
    exact Bindings.within_merge system.known supplied name (settled name member speaks)

/-- A firing keeps within a closed set, and settles the formula that fires. -/
theorem Closing.fires (decided : Decided admitted spoken tables additions)
    (closed : ClosedUnder spoken tables names) {system later : System K V}
    (fires : Fires system later) (closing : Closing admitted spoken tables names system) :
    Closing admitted spoken tables names later := by
  have within := fires.within
  have sublist := fires.pending_sublist.trans closing.pending_sublist
  cases fires with
  | fire known front formula back ready =>
    -- The formula that fires is one of the tables.
    obtain ⟨table, listed, rfl⟩ := List.mem_map.mp (closing.pending_sublist.subset
      (List.mem_append_right front List.mem_cons_self))
    have admits : admitted known := closing.admits
    refine ⟨sublist, decided.keeps table listed known admits ready,
      closed.sound_fire listed (decided.decisive table listed) admits closing.sound, ?_⟩
    intro other otherListed
    rcases closing.settled other otherListed with pending | settled
    · rcases List.mem_cons.mp (List.perm_middle.mem_iff.mp pending) with same | pending
      · -- The formula that fired is this one, so it is settled from now on.
        refine Or.inr fun name member speaks => ?_
        rw [← same] at ready ⊢
        exact (decided.decisive other otherListed).mem_fire admits ready member speaks
      · -- Another formula fired, so this one is still pending.
        exact Or.inl pending
    · -- A settled formula stays settled, as no variable is forgotten.
      exact Or.inr fun name member speaks => within name (settled name member speaks)

/-- A decided run keeps within every closed set that has the supplied variables. -/
theorem Closing.run (decided : Decided admitted spoken tables additions)
    (named : Supplied additions ⊆ names) (closed : ClosedUnder spoken tables names)
    {system : System K V} (closing : Closing admitted spoken tables names system) :
    Closing admitted spoken tables names (system.run additions) := by
  refine run_preserves (fun supplied member system closing => ?_)
    (Closing.fires decided closed) closing
  -- The supplied variables are in the set as well.
  have admits := decided.supplies supplied member system.known closing.admits
  exact closing.supply admits fun binding given => named ⟨supplied, member, binding.2, given⟩

omit [LawfulEqOrd K] in
/-- At the start all formulas are pending, so the known variables are all that matters. -/
theorem closing_start {known : Bindings K V} (admits : admitted known)
    (sound : ∀ name ∈ known, name ∈ names) :
    Closing admitted spoken tables names ⟨known, tables.map Table.toFormula⟩ where
  pending_sublist := .refl _
  admits := admits
  sound := sound
  settled _ listed := Or.inl (List.mem_map_of_mem listed)

/-- What a decided run knows stays within every closed set that has the supplied variables. -/
theorem closing_run (decided : Decided admitted spoken tables additions)
    (named : Supplied additions ⊆ names) (closed : ClosedUnder spoken tables names) :
    Closing admitted spoken tables names
      ((ofFormulas (tables.map Table.toFormula)).run additions) :=
  -- Nothing is known at the start.
  (closing_start decided.start (by simp)).run decided named closed

/-- The set of all variables is closed, so what holds along a run does so without a set. -/
theorem closing_run_univ (decided : Decided admitted spoken tables additions)
    {known : Bindings K V} (admits : admitted known) :
    Closing admitted spoken tables Set.univ
      (System.run ⟨known, tables.map Table.toFormula⟩ additions) :=
  (closing_start admits fun _ _ => Set.mem_univ _).run decided (Set.subset_univ _)
    fun _ _ _ _ _ _ => Set.mem_univ _

/-- After a decided run of at least one addition, the known variables are the least closed set. -/
theorem isLeast_known_run (decided : Decided admitted spoken tables additions)
    (started : additions ≠ []) :
    IsLeast {names | Supplied additions ⊆ names ∧ ClosedUnder spoken tables names}
      {name | name ∈ ((ofFormulas (tables.map Table.toFormula)).run additions).known} := by
  refine ⟨⟨fun name named => mem_run_of_supplied named, ?_⟩, ?_⟩
  · intro table listed name member speaks others
    rcases (closing_run_univ decided decided.start).settled table listed with pending | settled
    · -- A formula all of whose variables but one are known is ready, and so not pending.
      have unready := unready_of_mem_run _ started _ pending
      have ready := atMostOneMissing_of_others (decided.decisive table listed).distinct others
      exact absurd (ready.symm.trans unready) (by simp)
    · exact settled name member speaks
  · -- Whatever is known is in every closed set with the supplied variables.
    intro names ⟨named, closed⟩ name member
    exact (closing_run decided named closed).sound name member

end Closing

end System

/-- Runs of formulas whose solvers are silent or speak are decided, whatever is supplied. -/
theorem System.decided_of_silent_or_speaks {tables : List (Table K V)}
    (distinct : ∀ table ∈ tables, table.declared.Nodup)
    (either : ∀ table ∈ tables, ∀ name ∈ table.declared, table.Silent name ∨ table.Speaks name)
    (additions : List (List (K × V))) :
    Decided (fun _ => True) Table.Speaks tables additions where
  decisive table listed :=
    Table.decisive_of_silent_or_speaks (distinct table listed) (either table listed)
  keeps _ _ _ _ _ := trivial
  supplies _ _ _ _ := trivial
  start := trivial

/-- A set that is closed under formulas is closed under them in any other order. -/
theorem closedUnder_perm {spoken : Table K V → K → Prop} {tables others : List (Table K V)}
    (same : others.Perm tables) {names : Set K} :
    ClosedUnder spoken others names ↔ ClosedUnder spoken tables names := by
  simp only [ClosedUnder, same.mem_iff]

/--
The variables known after a run are the least set that is closed under the formulas.

The set has the supplied variables, and each variable whose solver speaks once it has the others of
the formula. So the order of the formulas does not decide what becomes known, nor do the order and
the division of the additions.
-/
theorem known_run_isLeast [LawfulEqOrd K] {tables : List (Table K V)}
    (distinct : ∀ table ∈ tables, table.declared.Nodup)
    (either : ∀ table ∈ tables, ∀ name ∈ table.declared, table.Silent name ∨ table.Speaks name)
    {additions : List (List (K × V))} (started : additions ≠ []) :
    let known := ((System.ofFormulas (tables.map Table.toFormula)).run additions).known
    IsLeast {names | Supplied additions ⊆ names ∧ ClosedUnder Table.Speaks tables names}
      {name | name ∈ known} ∧
    ∀ (others : List (Table K V)) (divided : List (List (K × V))), others.Perm tables →
      divided ≠ [] → Supplied divided = Supplied additions →
        ∀ name, name ∈ ((System.ofFormulas (others.map Table.toFormula)).run divided).known ↔
          name ∈ known := by
  intro known
  have least := System.isLeast_known_run
    (System.decided_of_silent_or_speaks distinct either additions) started
  refine ⟨least, fun others divided same other supplied name => ?_⟩
  -- The other list has the same formulas, so the same sets are closed under it.
  have second := System.isLeast_known_run (System.decided_of_silent_or_speaks
    (fun table listed => distinct table (same.mem_iff.mp listed))
    (fun table listed => either table (same.mem_iff.mp listed)) divided) other
  simp only [supplied, closedUnder_perm same] at second
  -- There is only one least set.
  exact Set.ext_iff.mp (second.unique least) name

open Orbit in
/-- A supplied variable may be overwritten, and contradict what is derived from the others. -/
theorem known_run_isLeast_overwritten :
    let additions : List (List (Variable × Float)) :=
      [[(.gm, 1), (.period, 2)], [(.gm, 3), (.periRadius, 1)]]
    let known := ((System.ofFormulas (tables.map Table.toFormula)).run additions).known
    Variable.apoVelocity ∈ known ∧
    (∀ table ∈ tables, table.declared.Nodup) ∧
    (∀ table ∈ tables, ∀ name ∈ table.declared, table.Silent name ∨ table.Speaks name) ∧
    IsLeast {names | Supplied additions ⊆ names ∧ ClosedUnder Table.Speaks tables names}
      {name | name ∈ known} ∧
    ∀ (others : List (Table Variable Float)) (divided : List (List (Variable × Float))),
      others.Perm tables → divided ≠ [] → Supplied divided = Supplied additions →
        ∀ name, name ∈ ((System.ofFormulas (others.map Table.toFormula)).run divided).known ↔
          name ∈ known := by
  intro additions known
  exact ⟨by decide +kernel, nodup_of_mem_tables, silent_or_speaks_of_mem_tables,
    known_run_isLeast nodup_of_mem_tables silent_or_speaks_of_mem_tables (by simp [additions])⟩

end TwoBody
