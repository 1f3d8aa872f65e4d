import TwoBody.Proofs.System.Closure

/-!
Derivable variables: those that follow from given ones by solving one orbit formula after another.

Which values are given does not matter, only the variables do. A run knows exactly the variables
that are derivable from the supplied ones.
-/

namespace TwoBody

open Std

/-- A solver that is silent does not speak, as the other variables can have values. -/
theorem Table.not_speaks_of_silent {K V : Type} [Ord K] [TransOrd K] [LawfulEqOrd K] [Inhabited V]
    {table : Table K V} {name : K} (silent : table.Silent name) : ¬ table.Speaks name := by
  intro speaks
  let known : Bindings K V := .ofList (table.declared.map fun other => (other, default))
  have others : table.OthersKnown name known := fun other member _ =>
    Bindings.mem_merge.mpr (Or.inr ⟨default, List.mem_map_of_mem member⟩)
  have answered := speaks known others
  rw [silent known] at answered
  exact absurd answered (by simp)

namespace Orbit

open Variable

/-- The variables of each entry are those of its formula that can be solved for. -/
theorem mem_solvable_iff : ∀ entry ∈ solvable, ∀ symbol,
    symbol ∈ entry.2 ↔ symbol ∈ entry.1.declared ∧ entry.1.Speaks symbol := by
  have declared : ∀ entry ∈ solvable, ∀ symbol ∈ entry.2, symbol ∈ entry.1.declared := by decide
  intro entry listed symbol
  have solves := solvesFor_of_mem_solvable entry listed
  constructor
  · intro member
    have related := declared entry listed symbol member
    exact ⟨related, solves.speaks symbol related member⟩
  · rintro ⟨related, speaks⟩
    by_contra unlisted
    exact Table.not_speaks_of_silent (solves.silent symbol related unlisted) speaks

/-- The variables that follow from the given ones. -/
inductive Derivable (given : Set Variable) : Variable → Prop where
  /-- A given variable is there from the start. -/
  | given {symbol : Variable} (member : symbol ∈ given) : Derivable given symbol
  /-- A formula is solved for a variable once all its other variables are there. -/
  | solved {table : Table Variable Float} {names : List Variable} {symbol : Variable}
    (listed : (table, names) ∈ solvable) (solves : symbol ∈ names)
    (others : ∀ other ∈ table.declared, other ≠ symbol → Derivable given other) :
    Derivable given symbol

/-- With all other variables of a formula, a variable that it can be solved for is derivable. -/
theorem closedUnder_derivable (given : Set Variable) :
    ClosedUnder Table.Speaks tables {symbol | Derivable given symbol} := by
  intro table listed symbol member speaks others
  obtain ⟨entry, found, rfl⟩ := List.mem_map.mp listed
  exact .solved found ((mem_solvable_iff entry found symbol).mpr ⟨member, speaks⟩) others

/-- A derivable variable is in every closed set that has the given ones. -/
theorem Derivable.mem_of_closedUnder {given names : Set Variable} {symbol : Variable}
    (derivable : Derivable given symbol) (named : given ⊆ names)
    (closed : ClosedUnder Table.Speaks tables names) : symbol ∈ names := by
  induction derivable with
  | given member => exact named member
  | @solved table names symbol listed solves others ih =>
    obtain ⟨member, speaks⟩ := (mem_solvable_iff _ listed symbol).mp solves
    exact closed table (List.mem_map_of_mem listed) symbol member speaks ih

/-- Nothing comes from nothing: every formula needs another variable to be solved for one. -/
theorem not_derivable_empty (symbol : Variable) : ¬ Derivable ∅ symbol := by
  have needs : ∀ entry ∈ solvable, ∀ symbol ∈ entry.2,
      ∃ other ∈ entry.1.declared, other ≠ symbol := by
    decide
  intro derivable
  induction derivable with
  | given member => exact member
  | @solved table names symbol listed solves others ih =>
    obtain ⟨other, member, different⟩ := needs _ listed symbol solves
    exact ih other member different

/-- A run knows a variable exactly if it is derivable from those that are supplied. -/
theorem mem_known_run_iff_derivable (additions : List (List (Variable × Float)))
    (symbol : Variable) :
    symbol ∈ (system.run additions).known ↔ Derivable (Supplied additions) symbol := by
  rcases eq_or_ne additions [] with rfl | started
  · -- Nothing is supplied, and nothing is known.
    have none : Supplied ([] : List (List (Variable × Float))) = ∅ := by simp [Supplied]
    rw [none]
    exact iff_of_false (by simp [System.run, system, System.ofFormulas])
      (not_derivable_empty symbol)
  · have least := System.isLeast_known_run (System.decided_of_silent_or_speaks
      nodup_of_mem_tables silent_or_speaks_of_mem_tables additions) started
    have derivable : IsLeast
        {names | Supplied additions ⊆ names ∧ ClosedUnder Table.Speaks tables names}
        {symbol | Derivable (Supplied additions) symbol} :=
      ⟨⟨fun _ member => .given member, closedUnder_derivable _⟩,
        fun names within _ derivable => derivable.mem_of_closedUnder within.1 within.2⟩
    -- There is only one least set.
    exact Set.ext_iff.mp (least.unique derivable) symbol

end Orbit

end TwoBody
