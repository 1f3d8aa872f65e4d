import Mathlib.Data.List.Induction
import TwoBody.Proofs.Formula.Answer

/-!
Edits: the solvers of a formula follow the log of what was registered and forgotten.

The variables are fixed when the formula is made. Each of them keeps the solver that the last edit
of this very variable gave it, whatever is done to the others and whichever edits fail.
-/

namespace TwoBody

open Std

/-- A change to the solver of one variable of a formula. -/
inductive Edit (K V : Type) [Ord K] where
  /-- A solver is registered in place. -/
  | register (name : K) (solver : Solver K V)
  /-- A solver is registered on a formula that is given up for it, and comes back on success. -/
  | chain (name : K) (solver : Solver K V)
  /-- The solver is forgotten, in place. -/
  | forget (name : K)

namespace Edit

section Log

variable {K V : Type} [Ord K]

/-- The variable whose solver is changed. -/
def name : Edit K V → K
  | register name _ => name
  | chain name _ => name
  | forget name => name

/-- The solver that the variable is left with; without one it never gets a value. -/
def solver : Edit K V → Solver K V
  | register _ solver => solver
  | chain _ solver => solver
  | forget _ => Solver.silent

/-- Whether the formula is given up, so that a failure loses it. -/
def givesUp : Edit K V → Bool
  | register _ _ => false
  | chain _ _ => true
  | forget _ => false

/-- The edit is in the log, and no edit after it is of the same variable. -/
def LastIn (edit : Edit K V) (edits : List (Edit K V)) : Prop :=
  -- Edits of other variables may come after it.
  ∃ front back, edits = front ++ edit :: back ∧ ∀ later ∈ back, later.name ≠ edit.name

/-- The last edit of a variable is the new one, or an earlier one if the new one is of another. -/
theorem LastIn.of_concat {edit new : Edit K V} {edits : List (Edit K V)}
    (last : edit.LastIn (edits ++ [new])) :
    edit = new ∨ new.name ≠ edit.name ∧ edit.LastIn edits := by
  obtain ⟨front, back, split, none⟩ := last
  -- Whether anything comes after the edit decides whether it is the new one.
  rcases List.eq_nil_or_concat back with rfl | ⟨between, other, rfl⟩
  · obtain ⟨-, same⟩ := List.append_inj' split rfl
    exact Or.inl (List.cons.inj same).1.symm
  · have split : edits ++ [new] = (front ++ edit :: between) ++ [other] := by simpa using split
    obtain ⟨earlier, same⟩ := List.append_inj' split rfl
    have same : new = other := (List.cons.inj same).1
    subst same
    refine Or.inr ⟨none new (by simp), front, between, earlier, ?_⟩
    intro later member
    exact none later (by simp [member])

end Log

variable {K V : Type} [Ord K] [TransOrd K] [LawfulEqOrd K]

/-- What an edit makes of a formula, or how it fails. -/
def apply (table : Table K V) : Edit K V → Except (FormulaError K) (Table K V)
  | register name solver => table.addSolver name solver
  | chain name solver => table.addSolver name solver
  | forget name => table.removeSolver name

/-- The formula that is left after an edit; a failing one changes nothing, but may lose it. -/
def leave (table : Table K V) (edit : Edit K V) : Option (Table K V) :=
  match edit.apply table with
  | .ok next => some next
  | .error _ => if edit.givesUp then none else some table

/-- Every edit registers a solver, be it the silent one. -/
theorem apply_eq (table : Table K V) (edit : Edit K V) :
    edit.apply table = table.addSolver edit.name edit.solver := by
  -- Forgetting a solver is registering one that never yields a value.
  cases edit <;> rfl

/-- An edit of a declared variable writes its solver and leaves all else as it is. -/
theorem apply_of_mem {table : Table K V} {edit : Edit K V} (member : edit.name ∈ table.declared) :
    ∃ next, edit.apply table = .ok next ∧ next.declared = table.declared ∧
      next.solvers = table.solvers.insert edit.name edit.solver := by
  -- Declared variables are those that the table has an entry for.
  have present : edit.name ∈ table.solvers := (table.covered edit.name).mpr member
  rw [apply_eq, Table.addSolver, dif_pos present]
  exact ⟨_, rfl, rfl, rfl⟩

/-- An edit of any other variable fails for it. -/
theorem apply_of_not_mem {table : Table K V} {edit : Edit K V}
    (undeclared : edit.name ∉ table.declared) :
    edit.apply table = .error (.undeclaredVariable edit.name) := by
  have absent : edit.name ∉ table.solvers :=
    fun present => undeclared ((table.covered edit.name).mp present)
  rw [apply_eq, Table.addSolver, dif_neg absent]

/-- An edit fails exactly if its variable is undeclared, and for no other reason. -/
theorem apply_eq_error_iff {table : Table K V} {edit : Edit K V} {error : FormulaError K} :
    edit.apply table = .error error ↔
      edit.name ∉ table.declared ∧ error = .undeclaredVariable edit.name := by
  by_cases member : edit.name ∈ table.declared
  · -- A declared variable has an entry to write to.
    obtain ⟨next, applied, -, -⟩ := apply_of_mem member
    simp [applied, member]
  · rw [apply_of_not_mem member, Except.error.injEq]
    constructor
    · intro same
      exact ⟨member, same.symm⟩
    · intro failure
      exact failure.2.symm

/-- An edit of a declared variable leaves a formula. -/
theorem leave_of_mem {table : Table K V} {edit : Edit K V} (member : edit.name ∈ table.declared) :
    ∃ next, edit.leave table = some next ∧ next.declared = table.declared ∧
      next.solvers = table.solvers.insert edit.name edit.solver := by
  obtain ⟨next, applied, written⟩ := apply_of_mem member
  exact ⟨next, by rw [leave, applied], written⟩

/-- An edit of any other variable loses the formula that was given up, or changes nothing. -/
theorem leave_of_not_mem {table : Table K V} {edit : Edit K V}
    (undeclared : edit.name ∉ table.declared) :
    edit.leave table = if edit.givesUp then none else some table := by
  rw [leave, apply_of_not_mem undeclared]

/-- The formula that an edit leaves has the new solver, or is the old one if the edit fails. -/
theorem leave_cases {table next : Table K V} {edit : Edit K V}
    (left : edit.leave table = some next) :
    (edit.name ∈ table.declared ∧ next.declared = table.declared ∧
      next.solvers = table.solvers.insert edit.name edit.solver) ∨
    (edit.name ∉ table.declared ∧ next = table) := by
  by_cases member : edit.name ∈ table.declared
  · obtain ⟨written, leaves, declared, solvers⟩ := leave_of_mem member
    cases Option.some.inj (leaves.symm.trans left)
    exact Or.inl ⟨member, declared, solvers⟩
  · rw [leave_of_not_mem member] at left
    -- Either it was given up, and none is left, or nothing has changed.
    split at left
    · cases left
    · exact Or.inr ⟨member, (Option.some.inj left).symm⟩

/-- An edit leaves no formula if it fails and the formula was given up for it. -/
theorem leave_eq_none_iff {table : Table K V} {edit : Edit K V} :
    edit.leave table = none ↔ edit.givesUp ∧ edit.name ∉ table.declared := by
  by_cases member : edit.name ∈ table.declared
  · obtain ⟨next, leaves, -⟩ := leave_of_mem member
    simp [leaves, member]
  · rw [leave_of_not_mem member]
    simp [member]

/-- An edit never changes which variables are declared. -/
theorem declared_of_leave {table next : Table K V} {edit : Edit K V}
    (left : edit.leave table = some next) : next.declared = table.declared := by
  rcases leave_cases left with ⟨-, declared, -⟩ | ⟨-, same⟩
  · exact declared
  · rw [same]

end Edit

namespace Table

variable {K V : Type} [Ord K] [TransOrd K] [LawfulEqOrd K]

/-- The formula that a log of edits leaves, unless one of them loses it. -/
def edited (table : Table K V) (edits : List (Edit K V)) : Option (Table K V) :=
  edits.foldlM Edit.leave table

/-- Without edits the formula stays as it is. -/
@[simp] theorem edited_nil (table : Table K V) : table.edited [] = some table := rfl

/-- The first edit is made before the others. -/
theorem edited_cons (table : Table K V) (edit : Edit K V) (rest : List (Edit K V)) :
    table.edited (edit :: rest) = (edit.leave table).bind fun next => next.edited rest := rfl

/-- The later edits are made to what the earlier ones left. -/
theorem edited_append (table : Table K V) (front back : List (Edit K V)) :
    table.edited (front ++ back) = (table.edited front).bind fun next => next.edited back := by
  -- This is the law of the fold for a log in two parts.
  simp [edited, List.foldlM_append, bind]

/-- A new edit is made to what the log left. -/
theorem edited_concat (table : Table K V) (edits : List (Edit K V)) (edit : Edit K V) :
    table.edited (edits ++ [edit]) = (table.edited edits).bind edit.leave := by
  rw [edited_append]
  congr
  funext next
  simp [edited]

omit [LawfulEqOrd K] in
/-- Formulas with the same variables and the same solvers are the same. -/
theorem eq_of_solvers {table other : Table K V} (declared : table.declared = other.declared)
    (solvers : table.solvers = other.solvers) : table = other := by
  -- All else in a formula is proofs.
  cases table
  cases other
  cases declared
  cases solvers
  rfl

/-- Writing a solver leaves those of the other variables alone. -/
theorem getElem?_insert_of_ne {solvers : ExtTreeMap K (Solver K V) compare} {name other : K}
    (different : name ≠ other) (solver : Solver K V) :
    (solvers.insert name solver)[other]? = solvers[other]? := by
  rw [ExtTreeMap.getElem?_insert,
    if_neg fun equal => different (LawfulEqCmp.compare_eq_iff_eq.mp equal)]

/-- Solvers of different variables can be written in either order. -/
theorem insert_comm {solvers : ExtTreeMap K (Solver K V) compare} {first second : K}
    (different : first ≠ second) (one two : Solver K V) :
    (solvers.insert first one).insert second two =
      (solvers.insert second two).insert first one := by
  apply ExtTreeMap.ext_getElem?
  intro name
  simp only [ExtTreeMap.getElem?_insert]
  -- No variable is both of them, so at most one of the two writes matters for it.
  by_cases here : compare first name = .eq
  · have other : compare second name ≠ .eq := by
      intro there
      have same := LawfulEqCmp.compare_eq_iff_eq.mp here
      exact different (same.trans (LawfulEqCmp.compare_eq_iff_eq.mp there).symm)
    rw [if_neg other, if_pos here, if_pos here]
  · rw [if_neg here, if_neg here]

/-- Two edits of different variables leave the same formula in either order. -/
theorem leave_bind_comm {first second : Edit K V} (different : first.name ≠ second.name)
    (table : Table K V) :
    (first.leave table).bind second.leave = (second.leave table).bind first.leave := by
  -- Neither edit changes what is declared, so each fails in both orders or in none.
  by_cases here : first.name ∈ table.declared
  · obtain ⟨one, left, declared, solvers⟩ := Edit.leave_of_mem here
    by_cases there : second.name ∈ table.declared
    · -- Both succeed, and write to different entries.
      obtain ⟨two, leftToo, declaredToo, solversToo⟩ := Edit.leave_of_mem there
      have thereStill : second.name ∈ one.declared := by rw [declared]; exact there
      have hereStill : first.name ∈ two.declared := by rw [declaredToo]; exact here
      obtain ⟨both, leftBoth, declaredBoth, solversBoth⟩ := Edit.leave_of_mem thereStill
      obtain ⟨again, leftAgain, declaredAgain, solversAgain⟩ := Edit.leave_of_mem hereStill
      rw [left, leftToo, Option.bind_some, Option.bind_some, leftBoth, leftAgain]
      congr 1
      apply eq_of_solvers
      · rw [declaredBoth, declaredAgain, declared, declaredToo]
      · rw [solversBoth, solversAgain, solvers, solversToo, insert_comm different]
    · -- Only the second one fails, before the first one or after it.
      have still : second.name ∉ one.declared := by rw [declared]; exact there
      rw [left, Option.bind_some, Edit.leave_of_not_mem still, Edit.leave_of_not_mem there]
      cases second.givesUp <;> simp [left]
  · by_cases there : second.name ∈ table.declared
    · -- Only the first one fails.
      obtain ⟨two, left, declared, -⟩ := Edit.leave_of_mem there
      have still : first.name ∉ two.declared := by rw [declared]; exact here
      rw [left, Option.bind_some, Edit.leave_of_not_mem still, Edit.leave_of_not_mem here]
      cases first.givesUp <;> simp [left]
    · -- Both fail, so the formula is lost if either of them gives it up.
      rw [Edit.leave_of_not_mem here, Edit.leave_of_not_mem there]
      cases one : first.givesUp <;> cases two : second.givesUp <;>
        simp [Edit.leave_of_not_mem here, Edit.leave_of_not_mem there, one, two]

/-- What a formula is like that was made from the declared variables and then edited. -/
structure Follows (declared : List K) (edits : List (Edit K V)) (table : Table K V) : Prop where
  /-- The variables are the original ones, in their order and with their repetitions. -/
  declared_eq : table.declared = declared
  /-- Exactly the declared variables have an entry in the table. -/
  entries : ∀ name, name ∈ table.solvers ↔ name ∈ declared
  /-- The solver that is looked up to yield a value is there, whatever is known. -/
  found : ∀ (known : Bindings K V) name, lastMissing? table.declared known = some name →
    ∃ solver, table.solvers[name]? = some solver
  /-- A declared variable has the solver that the last edit of it gave. -/
  last : ∀ edit : Edit K V, edit.LastIn edits → edit.name ∈ declared →
    table.solvers[edit.name]? = some edit.solver
  /-- A declared variable that no edit was of has a silent solver. -/
  untouched : ∀ name ∈ declared, (∀ edit ∈ edits, edit.name ≠ name) →
    table.solvers[name]? = some Solver.silent

omit [LawfulEqOrd K] in
/-- A formula with the right variables has its entries, and finds the solver that it looks up. -/
theorem Follows.of_declared {declared : List K} {edits : List (Edit K V)} {table : Table K V}
    (same : table.declared = declared)
    (last : ∀ edit : Edit K V, edit.LastIn edits → edit.name ∈ declared →
      table.solvers[edit.name]? = some edit.solver)
    (untouched : ∀ name ∈ declared, (∀ edit ∈ edits, edit.name ≠ name) →
      table.solvers[name]? = some Solver.silent) : Follows declared edits table where
  declared_eq := same
  entries name := by rw [table.covered, same]
  found known name missing := by
    -- The variable that is looked up is a missing one, which is declared.
    have present : name ∈ table.solvers :=
      (table.covered name).mpr (mem_of_lastMissing? missing)
    exact ⟨_, ExtTreeMap.getElem?_eq_some_getElem present⟩
  last := last
  untouched := untouched

/-- A new formula follows the empty log: all of its solvers are silent. -/
theorem follows_ofVariables {declared : List K} (nonempty : declared ≠ []) :
    ∃ start : Table K V, ofVariables declared = .ok start ∧ Follows declared [] start := by
  refine ⟨ofSolvers declared nonempty fun _ => Solver.silent, by rw [ofVariables, dif_neg nonempty],
    .of_declared rfl ?_ ?_⟩
  · -- The empty log has no last edit.
    rintro edit ⟨front, back, split, -⟩
    simp at split
  · intro name member _
    exact getElem?_tabulate (fun _ => Solver.silent) member

/-- An edit is followed by the formula that it leaves. -/
theorem Follows.leave {declared : List K} {edits : List (Edit K V)} {table next : Table K V}
    (follows : Follows declared edits table) {new : Edit K V} (left : new.leave table = some next) :
    Follows declared (edits ++ [new]) next := by
  have same : next.declared = declared := (Edit.declared_of_leave left).trans follows.declared_eq
  rcases Edit.leave_cases left with ⟨-, -, solvers⟩ | ⟨undeclared, unchanged⟩
  · -- The new edit writes the entry of its own variable.
    apply Follows.of_declared same
    · intro edit last listed
      rw [solvers]
      rcases last.of_concat with rfl | ⟨other, earlier⟩
      · exact ExtTreeMap.getElem?_insert_self
      · rw [getElem?_insert_of_ne other]
        exact follows.last edit earlier listed
    · intro name listed none
      have other : new.name ≠ name := none new (by simp)
      rw [solvers, getElem?_insert_of_ne other]
      exact follows.untouched name listed fun edit before => none edit (by simp [before])
  · -- A failing edit is not of a declared variable, and leaves the formula as it is.
    subst unchanged
    apply Follows.of_declared same
    · intro edit last listed
      rcases last.of_concat with rfl | ⟨-, earlier⟩
      · rw [← same] at listed
        exact absurd listed undeclared
      · exact follows.last edit earlier listed
    · intro name listed none
      exact follows.untouched name listed fun edit before => none edit (by simp [before])

/-- A log of edits is followed by the formula that it leaves. -/
theorem follows_edited {declared : List K} {start : Table K V} (made : Follows declared [] start)
    {edits : List (Edit K V)} {table : Table K V} (left : start.edited edits = some table) :
    Follows declared edits table := by
  -- The induction is on the last edit, which is made to what the others left.
  induction edits using List.reverseRecOn generalizing table with
  | nil =>
    rw [← Option.some.inj left]
    exact made
  | append_singleton edits edit ih =>
    rw [edited_concat] at left
    obtain ⟨before, leftBefore, left⟩ := Option.bind_eq_some_iff.mp left
    exact (ih leftBefore).leave left

/-- A formula is lost exactly by an edit of an undeclared variable that it was given up for. -/
theorem edited_eq_none_iff {start : Table K V} {edits : List (Edit K V)} :
    start.edited edits = none ↔ ∃ edit ∈ edits, edit.givesUp ∧ edit.name ∉ start.declared := by
  -- The first edit leaves a formula with the same variables, or loses it.
  induction edits generalizing start with
  | nil => simp
  | cons edit rest ih =>
    rw [edited_cons, List.exists_mem_cons_iff]
    cases left : edit.leave start with
    | none =>
      -- Only a failing edit that the formula was given up for leaves none.
      simp [Edit.leave_eq_none_iff.mp left]
    | some next =>
      have kept : ¬ (edit.givesUp ∧ edit.name ∉ start.declared) := by
        intro lost
        rw [Edit.leave_eq_none_iff.mpr lost] at left
        cases left
      rw [Option.bind_some, ih, Edit.declared_of_leave left]
      simp [kept]

/-- Two edits of different variables, one right after the other, can be made in either order. -/
theorem edited_swap (start : Table K V) (front back : List (Edit K V)) {first second : Edit K V}
    (different : first.name ≠ second.name) :
    start.edited (front ++ first :: second :: back) =
      start.edited (front ++ second :: first :: back) := by
  rw [edited_append, edited_append]
  congr
  funext table
  -- What follows the two edits is made to what they leave together.
  calc table.edited (first :: second :: back)
      _ = ((first.leave table).bind second.leave).bind fun next => next.edited back := by
        rw [Option.bind_assoc]
        rfl
      _ = ((second.leave table).bind first.leave).bind fun next => next.edited back := by
        rw [leave_bind_comm different]
      _ = table.edited (second :: first :: back) := by
        rw [Option.bind_assoc]
        rfl

/-- An edit leaves the solvers of all other variables alone. -/
theorem getElem?_solvers_of_apply {table next : Table K V} {edit : Edit K V}
    (applied : edit.apply table = .ok next) {other : K} (different : other ≠ edit.name) :
    next.solvers[other]? = table.solvers[other]? := by
  by_cases member : edit.name ∈ table.declared
  · obtain ⟨written, success, -, solvers⟩ := Edit.apply_of_mem member
    cases Except.ok.inj (success.symm.trans applied)
    -- The one entry that is written is that of the variable of the edit.
    rw [solvers, getElem?_insert_of_ne different.symm]
  · rw [Edit.apply_of_not_mem member] at applied
    cases applied

/--
The solvers of a formula follow the log of its edits, from any list of variables on.

Edits fail exactly for undeclared variables, with an error that shows the variable, and a failing
edit changes nothing. Only an edit that the formula is given up for loses it when it fails. Edits of
different variables leave each other's solvers alone, and can be made in either order.
-/
theorem edited_follows [Inspect K] {declared : List K} (nonempty : declared ≠ []) :
    ∃ start : Table K V, ofVariables declared = .ok start ∧ ∀ edits : List (Edit K V),
      (start.edited edits = none ↔ ∃ edit ∈ edits, edit.givesUp ∧ edit.name ∉ declared) ∧
      (∀ front first second back, edits = front ++ first :: second :: back →
        first.name ≠ second.name →
          start.edited edits = start.edited (front ++ second :: first :: back)) ∧
      ∀ table, start.edited edits = some table →
        Follows declared edits table ∧
        ∀ edit : Edit K V,
          (∀ error, edit.apply table = .error error ↔
            edit.name ∉ declared ∧ error = .undeclaredVariable edit.name ∧
            error.message =
              "Variable " ++ inspect edit.name ++ " is not registered within the formula") ∧
          (edit.name ∉ declared → edit.leave table = if edit.givesUp then none else some table) ∧
          ∀ next, edit.apply table = .ok next → ∀ other, other ≠ edit.name →
            next.solvers[other]? = table.solvers[other]? := by
  obtain ⟨start, made, fresh⟩ := follows_ofVariables (V := V) nonempty
  refine ⟨start, made, ?_⟩
  intro edits
  refine ⟨?_, ?_, ?_⟩
  · rw [edited_eq_none_iff, fresh.declared_eq]
  · rintro front first second back rfl different
    exact edited_swap start front back different
  · intro table left
    have follows := follows_edited fresh left
    have same : table.declared = declared := follows.declared_eq
    refine ⟨follows, ?_⟩
    intro edit
    refine ⟨?_, ?_, ?_⟩
    · intro error
      rw [Edit.apply_eq_error_iff, same]
      constructor
      · rintro ⟨undeclared, rfl⟩
        exact ⟨undeclared, rfl, rfl⟩
      · intro failure
        exact ⟨failure.1, failure.2.1⟩
    · intro undeclared
      exact Edit.leave_of_not_mem (by rw [same]; exact undeclared)
    · intro next applied other different
      exact getElem?_solvers_of_apply applied different

/--
A variable that is declared twice has one solver, and the last edit of it counts.

Here two of the edits fail. The last solver of the first variable takes the place of one that was
forgotten, and the second variable loses its solver for good.
-/
theorem edited_follows_repeated :
    let declared : List Nat := [1, 2, 1]
    let double : Solver Nat Nat := fun known => known[2]?.map (2 * ·)
    let edits : List (Edit Nat Nat) :=
      [.chain 2 double, .register 1 Solver.silent, .register 7 double, .forget 1, .forget 2,
        .forget 9, .chain 1 double]
    declared ≠ [] ∧
    ∃ start table : Table Nat Nat, ofVariables declared = .ok start ∧
      start.edited edits = some table ∧ table.declared = [1, 2, 1] ∧
      table.solvers[1]? = some double ∧ table.solvers[2]? = some Solver.silent ∧
      (Edit.register 7 double).apply table = .error (.undeclaredVariable 7) ∧
      (FormulaError.undeclaredVariable 7).message =
        "Variable 7 is not registered within the formula" := by
  intro declared double edits
  have nonempty : declared ≠ [] := by simp [declared]
  obtain ⟨start, made, spec⟩ := edited_follows (V := Nat) nonempty
  obtain ⟨lost, -, kept⟩ := spec edits
  -- Neither of the two edits that the formula is given up for fails.
  have present : start.edited edits ≠ none := by
    rw [Ne, lost]
    simp [edits, declared, Edit.givesUp, Edit.name]
  obtain ⟨table, left⟩ := Option.ne_none_iff_exists'.mp present
  obtain ⟨follows, calls⟩ := kept table left
  refine ⟨nonempty, start, table, made, left, follows.declared_eq, ?_, ?_, ?_, by decide +kernel⟩
  · exact follows.last (.chain 1 double) ⟨edits.dropLast, [], rfl, by simp⟩ (by simp [declared,
      Edit.name])
  · exact follows.last (.forget 2) ⟨edits.take 4, edits.drop 5, rfl, by simp [edits, Edit.name]⟩
      (by simp [declared, Edit.name])
  · exact ((calls (.register 7 double)).1 _).mpr ⟨by simp [declared, Edit.name], rfl, rfl⟩

end Table

end TwoBody
