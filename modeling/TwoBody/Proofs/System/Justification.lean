import Mathlib.Data.List.Nodup
import TwoBody.Proofs.Orbit.Solvers
import TwoBody.Proofs.System.Closure
import TwoBody.Proofs.System.Freshness

/-!
Justification: every derived value follows from other known values, and never from itself.

The known variables are kept in the order in which they became known. A derived one is computed by a
formula whose other variables come before it. As long as no known variable is supplied anew, these
values stay, so the formula still computes the same value from them.
-/

namespace TwoBody

open Std

variable {K V : Type} [Ord K] [TransOrd K]

/-- A formula computes the known value of a variable from variables that were known before. -/
structure Table.Computes (table : Table K V) (known : Bindings K V) (before : List K) (name : K) :
    Prop where
  /-- The formula relates the variable to others. -/
  declared : name ∈ table.declared
  /-- Its solver gives the variable the value that it has. -/
  answer_eq : table.answer name known = known[name]?
  /-- All other variables of the formula were known before. -/
  others : ∀ other ∈ table.declared, other ≠ name → other ∈ before

/-- As long as known values stay, a formula with local solvers computes the same value. -/
theorem Table.Computes.of_keptIn {table : Table K V} (isLocal : table.Local)
    {known later : Bindings K V} (kept : known.KeptIn later) {before : List K} {name : K}
    (computes : table.Computes known before name) (present : name ∈ known)
    (earlier : ∀ other ∈ before, other ∈ known) : table.Computes later before name where
  declared := computes.declared
  others := computes.others
  answer_eq := by
    -- The solver reads the other variables only, and these have the same values later on.
    have same : ∀ read ∈ table.declared, read ≠ name → later[read]? = known[read]? :=
      fun read member different =>
        kept.getElem?_eq (earlier read (computes.others read member different))
    rw [isLocal name computes.declared later known same, computes.answer_eq,
      kept.getElem?_eq present]

/-- Each variable of a list, the latest one first, is given or computed from earlier ones. -/
def Grounded (tables : List (Table K V)) (given : Set K) (known : Bindings K V) : List K → Prop
  | [] => True
  | name :: before =>
    (name ∈ given ∨ ∃ table ∈ tables, table.Computes known before name) ∧
      Grounded tables given known before

/-- As long as known values stay, variables that are grounded remain so. -/
theorem Grounded.of_keptIn {tables : List (Table K V)} (isLocal : ∀ table ∈ tables, table.Local)
    {given : Set K} {known later : Bindings K V} (kept : known.KeptIn later) {history : List K}
    (grounded : Grounded tables given known history) (present : ∀ name ∈ history, name ∈ known) :
    Grounded tables given later history := by
  -- The induction is on the variables, from the latest one to the earliest.
  induction history with
  | nil => trivial
  | cons name before ih =>
    have earlier : ∀ other ∈ before, other ∈ known :=
      fun other member => present other (List.mem_cons_of_mem _ member)
    refine ⟨grounded.1.imp_right ?_, ih grounded.2 earlier⟩
    rintro ⟨table, listed, computes⟩
    exact ⟨table, listed, computes.of_keptIn (isLocal table listed) kept
      (present name List.mem_cons_self) earlier⟩

/-- Variables that are given can be put on top of others. -/
theorem Grounded.append {tables : List (Table K V)} {given : Set K} {known : Bindings K V}
    {history : List K} (grounded : Grounded tables given known history) {names : List K}
    (supplied : ∀ name ∈ names, name ∈ given) :
    Grounded tables given known (names ++ history) := by
  induction names with
  | nil => exact grounded
  | cons name rest ih =>
    exact ⟨Or.inl (supplied name List.mem_cons_self),
      ih fun other member => supplied other (List.mem_cons_of_mem _ member)⟩

/-- A variable is given, or some formula computes it from the variables that come before it. -/
theorem Grounded.of_append {tables : List (Table K V)} {given : Set K} {known : Bindings K V}
    {after before : List K} {name : K}
    (grounded : Grounded tables given known (after ++ name :: before)) :
    name ∈ given ∨ ∃ table ∈ tables, table.Computes known before name := by
  -- The variables after it do not matter.
  induction after with
  | nil => exact grounded.1
  | cons other rest ih => exact ih grounded.2

/-- A list of the known variables, the latest first, in which each of them is grounded. -/
structure Founded (tables : List (Table K V)) (given : Set K) (known : Bindings K V)
    (history : List K) : Prop where
  /-- No variable is listed twice. -/
  nodup : history.Nodup
  /-- The known variables are listed. -/
  mem_iff : ∀ name, name ∈ history ↔ name ∈ known
  /-- Each of them is given or computed from those before it. -/
  grounded : Grounded tables given known history

/-- What becomes known can be put on top of what was known, if known values stay. -/
theorem Founded.extend {tables : List (Table K V)} (isLocal : ∀ table ∈ tables, table.Local)
    {given : Set K} {known later : Bindings K V} {history : List K}
    (founded : Founded tables given known history) (kept : known.KeptIn later) {names : List K}
    (distinct : names.Nodup) (new : ∀ name, name ∈ names ↔ name ∈ later ∧ name ∉ known)
    (grounded : Grounded tables given later history →
      Grounded tables given later (names ++ history)) :
    Founded tables given later (names ++ history) where
  nodup := by
    -- A variable that becomes known was not known before.
    refine distinct.append founded.nodup fun name added listed => ?_
    exact ((new name).mp added).2 ((founded.mem_iff name).mp listed)
  mem_iff name := by
    rw [List.mem_append, new, founded.mem_iff]
    -- A variable that was known is known later on.
    have still := kept.within name
    tauto
  grounded := grounded
    (founded.grounded.of_keptIn isLocal kept fun name => (founded.mem_iff name).mp)

namespace System

/-- A formula all of whose variables are known is pending no more after an addition. -/
theorem not_mem_pending_run {additions : List (List (K × V))} (started : additions ≠ [])
    {system : System K V} {table : Table K V}
    (complete : ∀ name ∈ table.declared, name ∈ (system.run additions).known) :
    table.toFormula ∉ (system.run additions).pending := by
  intro pending
  -- Nothing is missing, so the formula is ready, but no pending formula is.
  have none : missing table.declared (system.run additions).known = [] :=
    List.eq_nil_iff_forall_not_mem.mpr fun name absent =>
      (mem_missing.mp absent).2 (complete name (mem_missing.mp absent).1)
  have ready : table.toFormula.ready (system.run additions).known = true := by
    rw [table.standard]
    simp [atMostOneMissing, Table.toFormula, none]
  exact absurd (ready.symm.trans (unready_of_mem_run system started _ pending)) (by simp)

/-- What holds along a fresh run: each known variable is given, or computed from earlier ones. -/
structure Justified (tables : List (Table K V)) (given : Set K) (system : System K V) : Prop where
  /-- The pending formulas are some of the given ones. -/
  mem_tables : ∀ formula ∈ system.pending, formula ∈ tables.map Table.toFormula
  /-- The known variables can be put in order. -/
  founded : ∃ history, Founded tables given system.known history

section Justified

variable [LawfulEqOrd K] {tables : List (Table K V)} {given : Set K}

/-- Supplying unknown variables puts them on top of those known before. -/
theorem Justified.supply (isLocal : ∀ table ∈ tables, table.Local) {system : System K V}
    (justified : Justified tables given system) {supplied : List (K × V)}
    (fresh : ∀ binding ∈ supplied, binding.1 ∉ system.known)
    (named : ∀ binding ∈ supplied, binding.1 ∈ given) :
    Justified tables given (system.supply supplied) := by
  refine ⟨justified.mem_tables, ?_⟩
  obtain ⟨history, founded⟩ := justified.founded
  let later := system.known.merge supplied
  -- An addition may name a variable more than once, so the new names are read off the result.
  let names := later.keys.filter fun name => name ∉ system.known
  have new : ∀ name, name ∈ names ↔ name ∈ later ∧ name ∉ system.known := by
    intro name
    simp [names]
  refine ⟨names ++ history, founded.extend isLocal (Bindings.keptIn_merge fresh)
    (later.nodup_keys.filter _) new fun grounded => grounded.append fun name member => ?_⟩
  obtain ⟨known, unknown⟩ := (new name).mp member
  obtain ⟨value, listed⟩ := (Bindings.mem_merge.mp known).resolve_left unknown
  exact named (name, value) listed

/-- A firing puts the variable that is derived on top of those it is computed from. -/
theorem Justified.fires (isLocal : ∀ table ∈ tables, table.Local) {system later : System K V}
    (fires : Fires system later) (justified : Justified tables given system) :
    Justified tables given later := by
  refine ⟨fun formula member =>
    justified.mem_tables formula (fires.pending_sublist.subset member), ?_⟩
  obtain ⟨history, founded⟩ := justified.founded
  cases fires with
  | fire known front formula back ready =>
    -- The formula that fires is one of the tables.
    obtain ⟨table, listed, rfl⟩ := List.mem_map.mp (justified.mem_tables formula
      (List.mem_append_right front List.mem_cons_self))
    have kept : known.KeptIn (table.toFormula.fire known) := table.additive.keptIn_fire known
    cases yields : table.toFormula.solve known with
    | none =>
      rw [Formula.fire_of_silent yields]
      exact ⟨history, founded⟩
    | some binding =>
      obtain ⟨name, value⟩ := binding
      obtain ⟨only, answered⟩ := Table.solve_eq_some_iff.mp yields
      have absent : name ∈ missing table.declared known := by simp [only]
      obtain ⟨declared, unknown⟩ := mem_missing.mp absent
      have others := Table.othersKnown_of_missing only
      have after : table.toFormula.fire known = known.insert name value := by
        rw [Formula.fire, yields]
        rfl
      have found : (known.insert name value)[name]? = some value := by simp
      rw [after] at kept ⊢
      refine ⟨[name] ++ history, founded.extend isLocal kept (List.nodup_singleton name) ?_
        fun grounded => ⟨Or.inr ⟨table, listed, declared, ?_, ?_⟩, grounded⟩⟩
      · -- No other variable becomes known.
        intro other
        simp only [List.mem_singleton, ExtTreeMap.mem_insert, LawfulEqCmp.compare_eq_iff_eq]
        grind
      · -- The solver does not read the variable itself, so the new value changes nothing for it.
        have same : ∀ read ∈ table.declared, read ≠ name →
            (known.insert name value)[read]? = known[read]? :=
          fun read member different => kept.getElem?_eq (others read member different)
        rw [isLocal table listed name declared _ known same, answered, found]
      · intro other member different
        exact (founded.mem_iff other).mpr (others other member different)

/-- Along a fresh run every known variable is supplied, or computed from earlier ones. -/
theorem justified_run (isLocal : ∀ table ∈ tables, table.Local) {additions : List (List (K × V))}
    (fresh : Fresh (ofFormulas (tables.map Table.toFormula)) additions) :
    Justified tables (Supplied additions)
      ((ofFormulas (tables.map Table.toFormula)).run additions) := by
  -- At the start nothing is known, so there is nothing to put in order.
  have start : Justified tables (Supplied additions) (ofFormulas (tables.map Table.toFormula)) :=
    ⟨fun _ member => member, [], List.nodup_nil, by simp [ofFormulas], trivial⟩
  refine fresh.run_preserves (fun supplied member system unknown justified => ?_)
    (Justified.fires isLocal) start
  exact justified.supply isLocal unknown fun binding listed =>
    ⟨supplied, member, binding.2, listed⟩

/--
The known variables have an order in which each derived one is computed from variables before it.

The formula that computes it is pending no more, and its solver still gives the variable the value
that it has. This needs solvers that read nothing but the other variables of their formula, and
additions that supply unknown variables only.
-/
theorem known_run_justified (isLocal : ∀ table ∈ tables, table.Local)
    {additions : List (List (K × V))}
    (fresh : Fresh (ofFormulas (tables.map Table.toFormula)) additions) :
    let system := (ofFormulas (tables.map Table.toFormula)).run additions
    ∃ order : List K, order.Nodup ∧ (∀ name, name ∈ order ↔ name ∈ system.known) ∧
      ∀ before name after, order = before ++ name :: after → name ∉ Supplied additions →
        ∃ table ∈ tables, table.toFormula ∉ system.pending ∧ name ∈ table.declared ∧
          (∃ value, system.known[name]? = some value ∧
            table.answer name system.known = some value) ∧
          ∀ other ∈ table.declared, other ≠ name → other ∈ before := by
  intro system
  obtain ⟨history, founded⟩ := (justified_run isLocal fresh).founded
  -- The history has the latest variable first.
  refine ⟨history.reverse, List.nodup_reverse.mpr founded.nodup,
    fun name => List.mem_reverse.trans (founded.mem_iff name),
    fun before name after split new => ?_⟩
  have listed : history = after.reverse ++ name :: before.reverse := by
    rw [← List.reverse_reverse history, split]
    simp
  have known : ∀ other ∈ history, other ∈ system.known :=
    fun other => (founded.mem_iff other).mp
  have grounded := founded.grounded
  rw [listed] at grounded known
  obtain ⟨table, member, computes⟩ := grounded.of_append.resolve_left new
  have present : name ∈ system.known := known name (by simp)
  have others : ∀ other ∈ table.declared, other ≠ name → other ∈ before :=
    fun other declared different => List.mem_reverse.mp (computes.others other declared different)
  refine ⟨table, member, ?_, computes.declared,
    ⟨system.known[name], ExtTreeMap.getElem?_eq_some_getElem present, ?_⟩, others⟩
  · -- Something is known, so there was an addition, and all variables of the formula are known.
    have started : additions ≠ [] := by
      rintro rfl
      simp [system, run, ofFormulas] at present
    refine not_mem_pending_run started fun other declared => ?_
    by_cases same : other = name
    · exact same ▸ present
    · exact known other (by simp [others other declared same])
  · rw [computes.answer_eq]
    exact ExtTreeMap.getElem?_eq_some_getElem present

end Justified

open Orbit in
/-- The velocities are derived in the second addition, from radii of the first one among others. -/
theorem known_run_justified_velocity :
    let radii : List (Variable × Float) := [(.periRadius, 2), (.apoRadius, 6)]
    let additions := [radii, [(.gm, 8)]]
    let start := ofFormulas (tables.map Table.toFormula)
    let system := start.run additions
    Variable.periVelocity ∈ system.known ∧ Variable.periVelocity ∉ Supplied additions ∧
    (∀ table ∈ tables, table.Local) ∧ Fresh start additions ∧
    ∃ order : List Variable, order.Nodup ∧ (∀ name, name ∈ order ↔ name ∈ system.known) ∧
      ∀ before name after, order = before ++ name :: after → name ∉ Supplied additions →
        ∃ table ∈ tables, table.toFormula ∉ system.pending ∧ name ∈ table.declared ∧
          (∃ value, system.known[name]? = some value ∧
            table.answer name system.known = some value) ∧
          ∀ other ∈ table.declared, other ≠ name → other ∈ before := by
  intro radii additions start system
  have unknown : Variable.gm ∉ (start.add radii).known := by decide +kernel
  -- Nothing is known at the start, and only the central body is supplied after that.
  have fresh : Fresh start additions :=
    ⟨by simp [start, ofFormulas], by simpa using unknown, trivial⟩
  exact ⟨by decide +kernel, by simp [Supplied, additions, radii], local_of_mem_tables, fresh,
    known_run_justified local_of_mem_tables fresh⟩

end System

end TwoBody
