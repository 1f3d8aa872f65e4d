import Mathlib.Data.List.Forall2
import TwoBody.Proofs.Formula.Answer
import TwoBody.Proofs.System.Work

/-!
Translation: systems that do the same with values of one type as with those of another one.

Where each formula yields the translation of what its counterpart yields, whole runs do. So a run
can be read in numbers that say more about it, such as how they were computed.
-/

namespace TwoBody

open Std

variable {K V W : Type} [Ord K] [TransOrd K] {translate : V → W}

/-- The other bindings know the same variables, with the translations of their values. -/
def Bindings.Translates (translate : V → W) (known : Bindings K V) (other : Bindings K W) : Prop :=
  -- The variables are compared one at a time.
  ∀ name : K, other[name]? = known[name]?.map translate

/-- A binding with the translation of its value. -/
def translated (translate : V → W) (binding : K × V) : K × W :=
  (binding.1, translate binding.2)

namespace Bindings

/-- Where nothing is known, there is nothing to translate. -/
theorem translates_empty (translate : V → W) :
    (∅ : Bindings K V).Translates translate (∅ : Bindings K W) := by
  intro name
  simp

/-- Bindings and their translations know the same variables. -/
theorem Translates.mem_iff {known : Bindings K V} {other : Bindings K W}
    (same : known.Translates translate other) {name : K} : name ∈ other ↔ name ∈ known := by
  rw [ExtTreeMap.mem_iff_isSome_getElem?, ExtTreeMap.mem_iff_isSome_getElem?, same name,
    Option.isSome_map]

/-- The same variables are missing from the translations. -/
theorem Translates.missing_eq {known : Bindings K V} {other : Bindings K W}
    (same : known.Translates translate other) (declared : List K) :
    missing declared other = missing declared known :=
  -- Which variables are missing depends only on which ones are known.
  List.filter_congr fun name _ => by simp [same.mem_iff]

/-- Two values are computed with alike, where both of them are known. -/
theorem Translates.solve_two {known : Bindings K V} {other : Bindings K W}
    (same : known.Translates translate other) (first second : K) {compute : V → V → V}
    {computeOther : W → W → W}
    (alike : ∀ left right,
      computeOther (translate left) (translate right) = translate (compute left right)) :
    (do let left ← other[first]?
        let right ← other[second]?
        return computeOther left right) =
      (do let left ← known[first]?
          let right ← known[second]?
          return compute left right : Option V).map translate := by
  rw [same first, same second]
  -- Without one of the values nothing is computed on either side.
  cases known[first]? <;> cases known[second]? <;> simp [alike]

/-- Adding translated bindings to the translations translates what is known then. -/
theorem Translates.merge {known : Bindings K V} {other : Bindings K W}
    (same : known.Translates translate other) (supplied : List (K × V)) :
    (known.merge supplied).Translates translate
      (other.merge (supplied.map (translated translate))) := by
  -- The induction is on the bindings still to add.
  induction supplied generalizing known other with
  | nil => exact same
  | cons binding rest ih =>
    refine ih fun name => ?_
    -- Both insertions are at the same name, and it does not matter which one is looked up.
    rw [ExtTreeMap.getElem?_insert, ExtTreeMap.getElem?_insert, apply_ite (Option.map translate),
      same name]
    rfl

end Bindings

/-- The other formula is ready at the same time, and yields the translations. -/
structure Formula.Translates (translate : V → W) (formula : Formula K V) (other : Formula K W) :
    Prop where
  /-- One of them is ready when the other one is. -/
  ready_eq : ∀ {known : Bindings K V} {seen : Bindings K W}, known.Translates translate seen →
    other.ready seen = formula.ready known
  /-- It yields the translation of the binding that the other one yields, or none as well. -/
  solve_eq : ∀ {known : Bindings K V} {seen : Bindings K W}, known.Translates translate seen →
    other.solve seen = (formula.solve known).map (translated translate)

/-- The bindings after a firing are translated as well. -/
theorem Formula.Translates.fire {formula : Formula K V} {other : Formula K W}
    (both : formula.Translates translate other) {known : Bindings K V} {seen : Bindings K W}
    (same : known.Translates translate seen) :
    (formula.fire known).Translates translate (other.fire seen) := by
  -- The other formula adds the translation of what this one adds.
  have yielded : (other.solve seen).toList =
      (formula.solve known).toList.map (translated translate) := by
    rw [both.solve_eq same, Option.toList_map]
  rw [Formula.fire, Formula.fire, yielded]
  exact same.merge _

/-- Tabulated formulas translate each other if the answers of their solvers do. -/
theorem Table.translates {table : Table K V} {other : Table K W}
    (declared : other.declared = table.declared)
    (answers : ∀ name ∈ table.declared, ∀ {known : Bindings K V} {seen : Bindings K W},
      known.Translates translate seen →
        other.answer name seen = (table.answer name known).map translate) :
    table.toFormula.Translates translate other.toFormula where
  ready_eq {known seen} same := by
    -- Readiness counts the variables that are missing, which are the same.
    change atMostOneMissing other.declared seen = atMostOneMissing table.declared known
    rw [atMostOneMissing, atMostOneMissing, declared, same.missing_eq]
  solve_eq {known seen} same := by
    change other.solve seen = (table.solve known).map (translated translate)
    have alike := same.missing_eq table.declared
    by_cases single : (missing table.declared known).length = 1
    · -- The solvers of the only missing variable are asked.
      obtain ⟨name, only⟩ := List.length_eq_one_iff.mp single
      have absent : name ∈ missing table.declared known := by simp [only]
      have listed : name ∈ table.declared := (mem_missing.mp absent).1
      have onlyOther : missing other.declared seen = [name] := by
        rw [declared, alike, only]
      rw [solve_of_missing only, solve_of_missing onlyOther, answers name listed same,
        Option.map_map, Option.map_map]
      rfl
    · -- Otherwise none of them yields anything.
      rw [solve_of_length_ne_one single,
        solve_of_length_ne_one (by rw [declared, alike]; exact single)]
      rfl

/-- Formulas over the same variables translate each other if their solvers do. -/
theorem Table.translates_ofSolvers [LawfulEqOrd K] {declared : List K} (nonempty : declared ≠ [])
    {solver : K → Solver K V} {otherSolver : K → Solver K W}
    (solvers : ∀ name ∈ declared, ∀ {known : Bindings K V} {seen : Bindings K W},
      known.Translates translate seen →
        otherSolver name seen = (solver name known).map translate) :
    (ofSolvers declared nonempty solver).toFormula.Translates translate
      (ofSolvers declared nonempty otherSolver).toFormula := by
  refine Table.translates rfl fun name member {known seen} same => ?_
  rw [answer_ofSolvers nonempty solver member, answer_ofSolvers nonempty otherSolver member]
  exact solvers name member same

/-- The other pass does the same with the translations. -/
structure Pass.Translates (translate : V → W) (pass : Pass K V) (other : Pass K W) : Prop where
  /-- The formulas that wait translate each other. -/
  waiting : List.Forall₂ (Formula.Translates translate) pass.waiting other.waiting
  /-- The translations of what one pass derives are derived in the other one. -/
  derived_eq : other.derived = pass.derived.map (translated translate)
  /-- What is known after the pass is translated. -/
  known : pass.known.Translates translate other.known

/-- Passes over formulas that translate each other do so too. -/
theorem Pass.translates_scan {formulas : List (Formula K V)} {others : List (Formula K W)}
    (both : List.Forall₂ (Formula.Translates translate) formulas others)
    {known : Bindings K V} {seen : Bindings K W} (same : known.Translates translate seen) :
    (scan known formulas).Translates translate (scan seen others) := by
  -- The induction is on the formulas still to ask.
  induction both generalizing known seen with
  | nil => exact ⟨.nil, rfl, same⟩
  | @cons formula other rest others first _ ih =>
    cases ready : formula.ready known with
    | true =>
      -- Both formulas fire, and those after them are asked about what is known then.
      have later := ih (first.fire same)
      rw [scan_cons_ready ready, scan_cons_ready ((first.ready_eq same).trans ready)]
      refine ⟨later.waiting, ?_, later.known⟩
      simp only [List.map_append, later.derived_eq, first.solve_eq same, Option.toList_map]
    | false =>
      -- Both formulas wait.
      have later := ih same
      rw [scan_cons_unready ready, scan_cons_unready ((first.ready_eq same).trans ready)]
      exact ⟨.cons first later.waiting, later.derived_eq, later.known⟩

namespace System

/-- The other system knows the translations, and its pending formulas yield them. -/
structure Translates (translate : V → W) (system : System K V) (other : System K W) : Prop where
  /-- What is known is translated. -/
  known : system.known.Translates translate other.known
  /-- So is what is yielded by the pending formulas, which have the same order. -/
  pending : List.Forall₂ (Formula.Translates translate) system.pending other.pending

/-- Supplying translated bindings keeps to the translation. -/
theorem Translates.supply {system : System K V} {other : System K W}
    (same : system.Translates translate other) (supplied : List (K × V)) :
    (system.supply supplied).Translates translate
      (other.supply (supplied.map (translated translate))) where
  known := same.known.merge supplied
  pending := same.pending

/-- The first passes translate each other. -/
theorem Translates.pass {system : System K V} {other : System K W}
    (same : system.Translates translate other) :
    (Pass.scan system.known system.pending).Translates translate
      (Pass.scan other.known other.pending) :=
  Pass.translates_scan same.pending same.known

/-- A pass keeps to the translation. -/
theorem Translates.afterPass {system : System K V} {other : System K W}
    (same : system.Translates translate other) :
    system.afterPass.Translates translate other.afterPass :=
  ⟨same.pass.known, same.pass.waiting⟩

/-- Saturation keeps to the translation, and takes as many passes that translate each other. -/
theorem Translates.saturated {system : System K V} {other : System K W}
    (same : system.Translates translate other) :
    system.saturated.Translates translate other.saturated ∧
      List.Forall₂ (Pass.Translates translate) system.passes other.passes := by
  induction system using saturated_induction generalizing other with
  | idle system derives =>
    -- The first pass of the other system derives nothing either.
    have idle : (Pass.scan other.known other.pending).derived = [] := by
      rw [same.pass.derived_eq, derives, List.map_nil]
    rw [saturated_eq system, saturated_eq other, passes_eq system, passes_eq other, if_pos derives,
      if_pos derives, if_pos idle, if_pos idle]
    exact ⟨same.afterPass, .cons same.pass .nil⟩
  | productive system derives ih =>
    have productive : (Pass.scan other.known other.pending).derived ≠ [] := by
      rw [same.pass.derived_eq]
      exact fun empty => derives (List.map_eq_nil_iff.mp empty)
    -- What the passes after the first one do is known by induction.
    obtain ⟨after, others⟩ := ih same.afterPass
    rw [saturated_eq system, saturated_eq other, passes_eq system, passes_eq other, if_neg derives,
      if_neg derives, if_neg productive, if_neg productive]
    exact ⟨after, .cons same.pass others⟩

/-- An addition of translated bindings keeps to the translation. -/
theorem Translates.add {system : System K V} {other : System K W}
    (same : system.Translates translate other) (supplied : List (K × V)) :
    (system.add supplied).Translates translate
      (other.add (supplied.map (translated translate))) :=
  (same.supply supplied).saturated.1

/-- A run with translated bindings keeps to the translation. -/
theorem Translates.run {system : System K V} {other : System K W}
    (same : system.Translates translate other) (additions : List (List (K × V))) :
    (system.run additions).Translates translate
      (other.run (additions.map (List.map (translated translate)))) := by
  -- The induction is on the additions still to make.
  induction additions generalizing system other with
  | nil => exact same
  | cons supplied rest ih => exact ih (same.add supplied)

/-- A run with translated bindings takes as many passes, which translate each other. -/
theorem Translates.passesAlong {system : System K V} {other : System K W}
    (same : system.Translates translate other) (additions : List (List (K × V))) :
    List.Forall₂ (Pass.Translates translate) (system.passesAlong additions)
      (other.passesAlong (additions.map (List.map (translated translate)))) := by
  induction additions generalizing system other with
  | nil => exact .nil
  | cons supplied rest ih =>
    -- The passes of the first addition come before those of the others.
    exact List.rel_append (same.supply supplied).saturated.2 (ih (same.add supplied))

/-- The translations of what a run derives are derived in the same passes of the other run. -/
theorem Translates.map_derived_passesAlong {system : System K V} {other : System K W}
    (same : system.Translates translate other) (additions : List (List (K × V))) :
    (other.passesAlong (additions.map (List.map (translated translate)))).map Pass.derived =
      (system.passesAlong additions).map fun pass => pass.derived.map (translated translate) := by
  rw [← List.forall₂_eq_eq_eq, List.forall₂_map_left_iff, List.forall₂_map_right_iff]
  exact (same.passesAlong additions).flip.imp fun _ _ both => both.derived_eq

/-- Nothing is known at the start, so only the formulas have to translate each other. -/
theorem translates_ofFormulas {formulas : List (Formula K V)} {others : List (Formula K W)}
    (both : List.Forall₂ (Formula.Translates translate) formulas others) :
    (ofFormulas formulas).Translates translate (ofFormulas others) :=
  ⟨Bindings.translates_empty translate, both⟩

end System

end TwoBody
