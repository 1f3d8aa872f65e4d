import TwoBody.Proofs.System.Retention

/-!
Replay: supplying all that a run has led to leads to the same again.

What a run makes known is closed under the formulas, so nothing else is derived from parts of it.
Values that are derived on the way need not be the old ones, but each is overwritten in its turn.
-/

namespace TwoBody

open Std

variable {K V : Type}

/-- Where no variable is supplied twice, every supply is the last one of its variable. -/
theorem LastSupplied.of_nodup {additions : List (List (K × V))}
    (distinct : (additions.flatten.map Prod.fst).Nodup) {name : K} {value : V}
    (member : (name, value) ∈ additions.flatten) : LastSupplied additions name value := by
  obtain ⟨front, back, split⟩ := List.append_of_mem member
  refine ⟨front, back, split, fun binding later same => ?_⟩
  -- A later binding of the variable would make it occur twice.
  rw [split, List.map_append, List.map_cons] at distinct
  have apart := (List.nodup_cons.mp (List.nodup_append.mp distinct).2.1).1
  exact apart (List.mem_map.mpr ⟨binding, later, same⟩)

variable [Ord K] [TransOrd K]

namespace System

variable [LawfulEqOrd K] {admitted : Bindings K V → Prop} {spoken : Table K V → K → Prop}
  {tables : List (Table K V)} {additions replay : List (List (K × V))}

/-- A replay of nothing but known variables makes no other variable known. -/
theorem mem_of_mem_known_replay (first : Decided admitted spoken tables additions)
    (started : additions ≠ []) (second : Decided admitted spoken tables replay) :
    let start := ofFormulas (tables.map Table.toFormula)
    (∀ name ∈ Supplied replay, name ∈ (start.run additions).known) →
      ∀ name ∈ (start.run replay).known, name ∈ (start.run additions).known := by
  intro start named
  -- The variables known after the first run are closed under the formulas.
  have closed := (isLeast_known_run first started).1.2
  exact (closing_run second named closed).sound

/--
A run that supplies all that another one has made known makes the same known, and nothing else.

Only what is supplied last for a variable counts, so the bindings may come in any order, and others
may be supplied for the same variables before them.
-/
theorem known_run_replay (first : Decided admitted spoken tables additions)
    (started : additions ≠ []) (second : Decided admitted spoken tables replay) :
    let start := ofFormulas (tables.map Table.toFormula)
    (∀ name ∈ Supplied replay, name ∈ (start.run additions).known) →
      (∀ name value, (start.run additions).known[name]? = some value →
        LastSupplied replay name value) →
      (start.run replay).known = (start.run additions).known := by
  intro start named supplies
  have additive : ∀ formula ∈ start.pending, formula.Additive :=
    List.forall_mem_map.mpr fun table _ => table.additive
  refine ExtTreeMap.ext_getElem? fun name => ?_
  by_cases member : name ∈ (start.run additions).known
  · have found := ExtTreeMap.getElem?_eq_some_getElem member
    rw [found]
    exact getElem?_run_of_lastSupplied additive (supplies name _ found)
  · -- A variable that is not known after the first run is not known after the replay.
    have absent : name ∉ (start.run replay).known := fun later =>
      member (mem_of_mem_known_replay first started second named name later)
    rw [ExtTreeMap.getElem?_eq_none member, ExtTreeMap.getElem?_eq_none absent]

end System

end TwoBody
