import TwoBody.Proofs.Command.Printed
import TwoBody.Proofs.Input.Insertion
import TwoBody.Proofs.Orbit.Derivable

/-!
Insertion orbits: they determine all variables, whatever has been done before.

All variables are derivable from the periapsis radius, the period and the central body. A formula
that has fired without a value before this is not needed, as it could not have been solved.
-/

namespace TwoBody

open Orbit

namespace Orbit

open Variable

/-- A periapsis radius, a period and a central body determine all variables. -/
theorem derivable_of_insertion {given : Set Variable} (radius : periRadius ∈ given)
    (time : period ∈ given) (body : gm ∈ given) (symbol : Variable) : Derivable given symbol := by
  have rp : Derivable given periRadius := .given radius
  have t : Derivable given period := .given time
  have μ : Derivable given gm := .given body
  -- The axis comes first, then the other apsis and the eccentricity, and the velocities last.
  have kepler : (keplerThirdLaw, [semiMajorAxis, period, gm]) ∈ solvable := by simp [solvable]
  have a : Derivable given semiMajorAxis :=
    .solved kepler (by decide) (by simp [keplerThirdLaw, Table.ofSolvers, t, μ])
  have sum : (apsisSum, [periRadius, apoRadius, semiMajorAxis]) ∈ solvable := by simp [solvable]
  have ra : Derivable given apoRadius :=
    .solved sum (by decide) (by simp [apsisSum, Table.ofSolvers, a, rp])
  have near : (periapsis, [periRadius, semiMajorAxis, eccentricity]) ∈ solvable := by
    simp [solvable]
  have e : Derivable given eccentricity :=
    .solved near (by decide) (by simp [periapsis, Table.ofSolvers, a, rp])
  have fast : (visVivaPeriapsis, [periVelocity]) ∈ solvable := by simp [solvable]
  have vp : Derivable given periVelocity :=
    .solved fast (by decide) (by simp [visVivaPeriapsis, Table.ofSolvers, μ, rp, ra])
  have slow : (visVivaApoapsis, [apoVelocity]) ∈ solvable := by simp [solvable]
  have va : Derivable given apoVelocity :=
    .solved slow (by decide) (by simp [visVivaApoapsis, Table.ofSolvers, μ, rp, ra])
  cases symbol <;> assumption

/-- Where all variables are known after a run, no formula is pending. -/
theorem pending_run_of_known {additions : List (List (Variable × Float))}
    (started : additions ≠ []) (every : ∀ symbol, symbol ∈ (system.run additions).known) :
    (system.run additions).pending = [] := by
  have standard : ∀ formula ∈ formulas, formula.Standard := Table.forall_standard tables
  have pending : (system.run additions).pending =
      unready (system.run additions).known formulas := System.pending_run standard started
  -- A formula without a missing variable is ready.
  rw [pending]
  refine List.filter_eq_nil_iff.mpr fun formula member => ?_
  have none : missing formula.declared (system.run additions).known = [] :=
    List.filter_eq_nil_iff.mpr fun symbol _ => by simp [every symbol]
  rw [standard formula member]
  simp [atMostOneMissing, none]

/-- A run that ends with an insertion orbit knows all variables, and the given ones as given. -/
theorem run_insertion (additions : List (List (Variable × Float))) (radius portion gm : Float) :
    let ended := system.run (additions ++ [insertion radius portion gm])
    (∀ symbol, symbol ∈ ended.known) ∧ ended.pending = [] ∧
    ∀ binding ∈ insertion radius portion gm, ended.known[binding.1]? = some binding.2 := by
  intro ended
  have every : ∀ symbol, symbol ∈ ended.known := by
    intro symbol
    rw [mem_known_run_iff_derivable, supplied_append]
    have given : ∀ binding ∈ insertion radius portion gm,
        binding.1 ∈ Supplied additions ∪ Supplied [insertion radius portion gm] :=
      fun binding member => Or.inr ⟨_, List.mem_singleton_self _, binding.2, member⟩
    simp only [insertion, List.forall_mem_cons] at given
    exact derivable_of_insertion given.1 given.2.2.1 given.2.1 symbol
  refine ⟨every, pending_run_of_known (by simp) every, fun binding member => ?_⟩
  have distinct : ([insertion radius portion gm].flatten.map Prod.fst).Nodup := by
    simp [insertion]
  have last := (LastSupplied.of_nodup distinct (by simpa using member)).append additions
  exact getElem?_run_of_lastSupplied last

/-- Whatever arguments are accepted describe an insertion orbit. -/
theorem exists_insertion_of_readInsertion {words : List String}
    {supplied : List (Variable × Float)} (accepted : readInsertion words = .ok supplied) :
    ∃ radius portion gm, supplied = insertion radius portion gm := by
  by_cases counted : words.length = 2 ∨ words.length = 3
  · obtain ⟨height, portion, gm, describes⟩ := exists_describes_iff.mpr counted
    rw [describes.readInsertion_eq] at accepted
    obtain ⟨radius, share, parameter, -, -, -, same⟩ := readAll_eq_ok_iff.mp accepted
    exact ⟨radius, share, parameter, same⟩
  · -- Any other number of words is not accepted.
    rw [readInsertion_of_length (not_or.mp counted).1 (not_or.mp counted).2] at accepted
    cases accepted

end Orbit

/-- What can be done to a system, whether it succeeds or not. -/
inductive Operation where
  /-- Add bindings. -/
  | add (supplied : List (Variable × Float))
  /-- Set a single binding. -/
  | set (symbol : Variable) (value : Float)
  /-- Read a binding and set it. -/
  | bind (text : String)
  /-- Read the arguments of an insertion orbit and add its bindings. -/
  | insertion (arguments : List String)
  /-- Assume a central body unless one is known. -/
  | assume
  /-- Feed a dialogue with this input into the system. -/
  | dialogue (input : List UInt8)

/-- What an operation makes of a system; a text that is malformed leaves it as it is. -/
def Operation.apply (system : System Variable Float) : Operation → System Variable Float
  | add supplied => system.add supplied
  | set symbol value => system.set symbol value
  | bind text =>
    match readBinding text with
    | .ok (symbol, value) => system.set symbol value
    | .error _ => system
  | insertion arguments =>
    match readInsertion arguments with
    | .ok supplied => system.add supplied
    | .error _ => system
  | assume => withGm system
  | dialogue input => (Dialogue.run system input).2.system

/-- The orbit system after these operations, one after the other. -/
def operate (operations : List Operation) : System Variable Float :=
  operations.foldl Operation.apply Orbit.system

/-- An operation on a system that is reached by additions leads to another one. -/
theorem Operation.reached_apply {system : System Variable Float} (reached : Reached system)
    (operation : Operation) : Reached (operation.apply system) := by
  cases operation with
  | add supplied => exact reached.add supplied
  | set symbol value => exact reached.add [(symbol, value)]
  | bind text =>
    simp only [apply]
    split
    · exact reached.add _
    · exact reached
  | insertion arguments =>
    simp only [apply]
    split
    · exact reached.add _
    · exact reached
  | assume =>
    obtain ⟨additions, -, ran⟩ := reached.withGm
    exact ⟨additions, ran⟩
  | dialogue input => exact Dialogue.reached_converse reached (lines input)

/-- Whatever operations are made, their system is reached by additions. -/
theorem reached_operate (operations : List Operation) : Reached (operate operations) := by
  have run : ∀ system, Reached system → Reached (operations.foldl Operation.apply system) := by
    -- The induction is on the operations still to make.
    induction operations with
    | nil => exact fun _ reached => reached
    | cons operation rest ih => exact fun _ reached => ih _ (operation.reached_apply reached)
  exact run Orbit.system ⟨[], rfl⟩

/--
A command takes an insertion orbit with these bindings, after the given text is written.
-/
inductive Options.Inserts (options : Options) (input : List UInt8)
    (supplied : List (Variable × Float)) : String → Prop
  /-- The arguments describe it, and no question is asked. -/
  | arguments {words : List String} (given : options.insertion = some words)
    (accepted : readInsertion words = .ok supplied) : Inserts options input supplied ""
  /-- It is chosen and described in a dialogue. -/
  | dialogue {first : List UInt8} {rest : List (List UInt8)} {text : String}
    (asked : options.interactive = true) (split : lines input = first :: rest)
    (chosen : Dialogue.spells insertionWord first = true)
    (described : Dialogue.description? rest = some text)
    (accepted : Dialogue.readDescription text = .ok supplied) :
    Inserts options input supplied (Dialogue.choiceQuestion ++ Dialogue.insertionQuestion)

/-- An insertion orbit that a command takes leads to a system without a failure. -/
theorem Options.Inserts.reach_eq {options : Options} {input : List UInt8}
    {supplied : List (Variable × Float)} {written : String}
    (inserts : options.Inserts input supplied written) :
    options.reach input = (written, .ok (Orbit.system.add supplied)) := by
  cases inserts with
  | arguments given accepted =>
    have asked : options.interactive = false := by simp [interactive, given]
    rw [reach, if_neg (by simp [asked]), bound, given]
    simp only
    rw [accepted]
    rfl
  | dialogue asked split chosen described accepted =>
    rw [reach, if_pos asked, Dialogue.run, split, Dialogue.converse_chosen chosen, described]
    simp only [accepted]
    rfl

/--
An insertion orbit determines all variables, and leaves no formula pending.

It does not matter what has been done to the system before, or whether that has failed. The three
variables of the orbit have the given values, also where others were known. So a command that takes
an insertion orbit prints all eight variables with their values, and the given bindings are among
them.
-/
theorem insertion_determines_all :
    (∀ (operations : List Operation) (radius portion gm : Float),
      let ended := (operate operations).add (insertion radius portion gm)
      (∀ symbol, symbol ∈ ended.known) ∧ ended.pending = [] ∧
      ended.known[Variable.periRadius]? = some radius ∧ ended.known[Variable.gm]? = some gm ∧
      ended.known[Variable.period]? = some (circularPeriod radius gm * portion)) ∧
    ∀ arguments input options supplied written,
      Request.ofWords? arguments = some (.solve options) →
      options.Inserts input supplied written →
      ∃ shown output, shown.map Prod.fst = Variable.all ∧ supplied ⊆ shown ∧
        shown.map (fun binding => binding.1.name) =
          ["GM", "period", "Rp", "Vp", "Ra", "Va", "e", "a"] ∧
        Prints shown options.json output ∧
        runCommand arguments input = ⟨0, written ++ output, ""⟩ := by
  refine ⟨fun operations radius portion gm => ?_, ?_⟩
  · obtain ⟨additions, ran⟩ := reached_operate operations
    have ended := run_insertion additions radius portion gm
    rw [System.run_append, ← ran] at ended
    obtain ⟨every, pending, given⟩ := ended
    simp only [insertion, List.forall_mem_cons] at given
    exact ⟨every, pending, given.1, given.2.1, given.2.2.1⟩
  · intro arguments input options supplied written asked inserts
    have accepted : ∃ radius portion gm, supplied = insertion radius portion gm := by
      cases inserts with
      | arguments given accepted => exact exists_insertion_of_readInsertion accepted
      | dialogue asked split chosen described accepted =>
        exact exists_insertion_of_readInsertion accepted
    obtain ⟨radius, portion, gm, rfl⟩ := accepted
    obtain ⟨every, -, given⟩ := run_insertion [] radius portion gm
    have solved : runCommand arguments input = options.solve input := by rw [runCommand, asked]
    have listed : (entries (Orbit.system.add (insertion radius portion gm)).known).map Prod.fst =
        Variable.all := by
      rw [map_fst_entries]
      exact List.filter_eq_self.mpr fun symbol _ => decide_eq_true (every symbol)
    refine ⟨_, _, listed, fun binding member => mem_entries.mpr (given binding member), ?_,
      prints_printed options _, ?_⟩
    · have names := congrArg (List.map Variable.name) listed
      rwa [List.map_map] at names
    · have known : Variable.gm ∈ (Orbit.system.add (insertion radius portion gm)).known :=
        every Variable.gm
      rw [solved, Options.solve_eq, inserts.reach_eq, Options.conclude, withGm_of_mem known,
        Options.present_eq_printed known]

/--
An orbit without a radius, after a central body is known and an eccentricity is set, and one that is
described in a dialogue.
-/
theorem insertion_determines_all_late :
    let operations : List Operation :=
      [.set .gm 2, .bind "Rp", .assume, .dialogue (utf8 "no\ne=0.5\n")]
    let ended := (operate operations).add (insertion (0 / 0) 0.5 3)
    (∀ symbol, symbol ∈ ended.known) ∧ ended.pending = [] ∧
    ended.known[Variable.gm]? = some 3 ∧
    ∃ shown output, shown.map Prod.fst = Variable.all ∧ Prints shown true output ∧
      let asked := Dialogue.choiceQuestion ++ Dialogue.insertionQuestion
      runCommand ["--json"] (utf8 "Yes\n600000 0.5\n") = ⟨0, asked ++ output, ""⟩ := by
  intro operations ended
  obtain ⟨determined, printed⟩ := insertion_determines_all
  obtain ⟨every, pending, -, body, -⟩ := determined operations (0 / 0) 0.5 3
  have described : Dialogue.description? [utf8 "600000 0.5\n"] = some "600000 0.5" := by
    decide +kernel
  obtain ⟨supplied, accepted⟩ := Ratio.fault?_eq_none_iff.mp
    (by decide +kernel : Ratio.fault? (Dialogue.readDescription "600000 0.5") = none)
  have split : lines (utf8 "Yes\n600000 0.5\n") = [utf8 "Yes\n", utf8 "600000 0.5\n"] := by
    decide +kernel
  have asked : Request.ofWords? ["--json"] = some (.solve ⟨[], none, true⟩) := by decide +kernel
  obtain ⟨shown, output, all, -, -, prints, outcome⟩ := printed ["--json"] _ _ supplied _ asked
    (.dialogue rfl split (by decide +kernel) described accepted)
  exact ⟨every, pending, body, shown, output, all, prints, outcome⟩

end TwoBody
