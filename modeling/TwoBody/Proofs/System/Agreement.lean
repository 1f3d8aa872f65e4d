import TwoBody.Proofs.Orbit.Shape
import TwoBody.Proofs.System.Closure

/-!
Agreement: with true values supplied and true solvers, every run comes to know the same values.

Different runs may derive a variable by different formulas and at different times. The least closed
set decides which variables are known in the end, and the truth decides their values.
-/

namespace TwoBody

open Std

variable {K V : Type} [Ord K] [TransOrd K]

namespace Table

/-- A faithful formula is decisive where all values are true. -/
theorem Faithful.decisive {truth : K → V} {table : Table K V} (faithful : table.Faithful truth)
    (distinct : table.declared.Nodup) :
    table.Decisive (Bindings.Agree truth) (table.Tells truth) where
  distinct := distinct
  answers _ _ tells known agree others := by rw [tells known agree others]; rfl
  silent name member quiet := (faithful name member).resolve_left quiet

/-- What a faithful formula yields is true. -/
theorem Faithful.agree_fire [LawfulEqOrd K] {truth : K → V} {table : Table K V}
    (faithful : table.Faithful truth) {known : Bindings K V} (agree : known.Agree truth) :
    (table.toFormula.fire known).Agree truth := by
  refine agree.merge fun binding member => ?_
  have yields : table.solve known = some (binding.1, binding.2) := Option.mem_toList.mp member
  exact (faithful.eq_of_solve agree yields).2

end Table

/-- Every supplied value of a run is the true one. -/
def Truthful (truth : K → V) (additions : List (List (K × V))) : Prop :=
  -- A variable may be supplied more than once.
  ∀ supplied ∈ additions, ∀ binding ∈ supplied, binding.2 = truth binding.1

namespace System

section Faithful

variable [LawfulEqOrd K] {truth : K → V} {tables : List (Table K V)}
  (distinct : ∀ table ∈ tables, table.declared.Nodup)
  (faithful : ∀ table ∈ tables, table.Faithful truth)

include distinct faithful

/-- Runs of faithful formulas with true values are decided, by what the solvers tell. -/
theorem decided_of_truthful {additions : List (List (K × V))}
    (truthful : Truthful truth additions) :
    Decided (Bindings.Agree truth) (Table.Tells truth) tables additions where
  decisive table listed := (faithful table listed).decisive (distinct table listed)
  keeps table listed _ agree _ := (faithful table listed).agree_fire agree
  supplies supplied member _ agree := agree.merge (truthful supplied member)
  start _ _ found := by simp at found

/-- Along a run with true values, every known value is true. -/
theorem agree_run {additions : List (List (K × V))} (truthful : Truthful truth additions) :
    ((ofFormulas (tables.map Table.toFormula)).run additions).known.Agree truth :=
  have decided := decided_of_truthful distinct faithful truthful
  (closing_run_univ decided decided.start).admits

/-- After a run with true values the known variables are the least set closed under what is told. -/
theorem isLeast_known_run_of_truthful {additions : List (List (K × V))} (started : additions ≠ [])
    (truthful : Truthful truth additions) :
    IsLeast {names | Supplied additions ⊆ names ∧ ClosedUnder (Table.Tells truth) tables names}
      {name | name ∈ ((ofFormulas (tables.map Table.toFormula)).run additions).known} :=
  isLeast_known_run (decided_of_truthful distinct faithful truthful) started

end Faithful

/-- How many formulas are pending depends only on what is known, not on their order. -/
theorem length_pending_run_perm {left right : List (Table K V)} (same : left.Perm right)
    {leftMade rightMade : List (List (K × V))} (leftStarted : leftMade ≠ [])
    (rightStarted : rightMade ≠ [])
    (known : ((ofFormulas (left.map Table.toFormula)).run leftMade).known =
      ((ofFormulas (right.map Table.toFormula)).run rightMade).known) :
    ((ofFormulas (left.map Table.toFormula)).run leftMade).pending.length =
      ((ofFormulas (right.map Table.toFormula)).run rightMade).pending.length := by
  -- Exactly the formulas that are not ready are pending, and these are the same on both sides.
  rw [pending_run (Table.forall_standard left) leftStarted,
    pending_run (Table.forall_standard right) rightStarted, known]
  exact ((same.map Table.toFormula).filter _).length_eq

/--
Runs with true values over faithful formulas come to know the same true values.

The runs may ask the formulas in different orders and divide the additions differently, as long as
they supply the same variables in total. They also leave the same number of formulas pending.
-/
theorem run_agree_and_eq_of_perm [LawfulEqOrd K] {truth : K → V} {tables : List (Table K V)}
    (distinct : ∀ table ∈ tables, table.declared.Nodup)
    (faithful : ∀ table ∈ tables, table.Faithful truth) :
    (∀ additions, Truthful truth additions →
      ((ofFormulas (tables.map Table.toFormula)).run additions).known.Agree truth) ∧
    ∀ (left right : List (Table K V)) (leftMade rightMade : List (List (K × V))),
      left.Perm tables → right.Perm tables → leftMade ≠ [] → rightMade ≠ [] →
      Truthful truth leftMade → Truthful truth rightMade → Supplied leftMade = Supplied rightMade →
        ((ofFormulas (left.map Table.toFormula)).run leftMade).known =
          ((ofFormulas (right.map Table.toFormula)).run rightMade).known ∧
        ((ofFormulas (left.map Table.toFormula)).run leftMade).pending.length =
          ((ofFormulas (right.map Table.toFormula)).run rightMade).pending.length := by
  refine ⟨fun additions truthful => agree_run distinct faithful truthful, ?_⟩
  intro left right leftMade rightMade leftSame rightSame leftStarted rightStarted leftTrue rightTrue
    supplied
  -- Both orders list the same formulas.
  have distinctOf : ∀ {others : List (Table K V)}, others.Perm tables →
      ∀ table ∈ others, table.declared.Nodup :=
    fun same table listed => distinct table (same.mem_iff.mp listed)
  have faithfulOf : ∀ {others : List (Table K V)}, others.Perm tables →
      ∀ table ∈ others, table.Faithful truth :=
    fun same table listed => faithful table (same.mem_iff.mp listed)
  -- Both runs know the least closed set, and closed sets are the same for both orders.
  have leftLeast := isLeast_known_run_of_truthful (distinctOf leftSame) (faithfulOf leftSame)
    leftStarted leftTrue
  have rightLeast := isLeast_known_run_of_truthful (distinctOf rightSame) (faithfulOf rightSame)
    rightStarted rightTrue
  simp only [supplied, closedUnder_perm leftSame] at leftLeast
  simp only [closedUnder_perm rightSame] at rightLeast
  -- All known variables have their true values.
  have leftAgree := agree_run (distinctOf leftSame) (faithfulOf leftSame) leftTrue
  have rightAgree := agree_run (distinctOf rightSame) (faithfulOf rightSame) rightTrue
  have known := leftAgree.eq rightAgree (Set.ext_iff.mp (leftLeast.unique rightLeast))
  exact ⟨known, length_pending_run_perm (leftSame.trans rightSame.symm) leftStarted rightStarted
    known⟩

open Orbit Orbit.Variable in
/-- An orbit is found from its axis and its eccentricity, in whichever order they are supplied. -/
theorem run_agree_and_eq_of_perm_shape :
    let tables : List (Table Variable Rat) := [apsisSum, periapsis, apsisRatio]
    let shuffled : List (Table Variable Rat) := [apsisRatio, apsisSum, periapsis]
    let divided : List (List (Variable × Rat)) := [[(semiMajorAxis, 4)], [(eccentricity, 1 / 2)]]
    let whole : List (List (Variable × Rat)) := [[(eccentricity, 1 / 2), (semiMajorAxis, 4)]]
    ((ofFormulas (tables.map Table.toFormula)).run divided).known[apoRadius]? = some 6 ∧
    (∀ table ∈ tables, table.declared.Nodup) ∧
    (∀ table ∈ tables, table.Faithful (shape 4 (1 / 2))) ∧
    (∀ additions, Truthful (shape 4 (1 / 2)) additions →
      ((ofFormulas (tables.map Table.toFormula)).run additions).known.Agree (shape 4 (1 / 2))) ∧
    ((ofFormulas (tables.map Table.toFormula)).run divided).known =
      ((ofFormulas (shuffled.map Table.toFormula)).run whole).known ∧
    ((ofFormulas (tables.map Table.toFormula)).run divided).pending.length =
      ((ofFormulas (shuffled.map Table.toFormula)).run whole).pending.length := by
  intro tables shuffled divided whole
  have distinct : ∀ table ∈ tables, table.declared.Nodup := by decide
  have faithful : ∀ table ∈ tables, table.Faithful (shape 4 (1 / 2)) := by
    simp only [tables, List.mem_cons, List.not_mem_nil, or_false, forall_eq_or_imp, forall_eq]
    exact ⟨apsisSum_faithful _ _, periapsis_faithful (by norm_num) (by norm_num),
      apsisRatio_faithful (by norm_num) (by norm_num) (by norm_num)⟩
  have supplied : Supplied divided = Supplied whole := by
    ext name
    simp [Supplied, divided, whole, exists_or, or_comm]
  have wholeTrue : Truthful (shape 4 (1 / 2)) whole := by
    simp only [Truthful, whole, List.forall_mem_cons]
    simp [shape]
  -- The last formula moves to the front.
  have shuffle : shuffled.Perm tables := by
    have moved : ([apsisRatio] ++ [apsisSum, periapsis] : List (Table Variable Rat)).Perm
        ([apsisSum, periapsis] ++ [apsisRatio]) := List.perm_append_comm
    exact moved
  have both := run_agree_and_eq_of_perm distinct faithful
  exact ⟨by decide +kernel, distinct, faithful, both.1,
    both.2 tables shuffled divided whole (.refl _) shuffle (by simp [divided]) (by simp [whole])
      (by simp [Truthful, divided, shape]) wholeTrue supplied⟩

end System

end TwoBody
