import TwoBody.Command.Outcome
import TwoBody.Proofs.Command.Request
import TwoBody.Proofs.System.Closure

/-!
Reach: whatever the arguments and the input are, a command only ever adds bindings to its system.

So each system that it can come to is left by a run of additions, and what holds of all runs holds
of it.
-/

namespace TwoBody

open Orbit

namespace Orbit

/-- The system is left by a run of the orbit system. -/
def Reached (system : System Variable Float) : Prop :=
  -- At the start there are no additions yet.
  ∃ additions, system = Orbit.system.run additions

/-- An addition to a system that is reached reaches another one. -/
theorem Reached.add {system : System Variable Float} (reached : Reached system)
    (supplied : List (Variable × Float)) : Reached (system.add supplied) := by
  obtain ⟨additions, rfl⟩ := reached
  exact ⟨additions ++ [supplied], by rw [System.run_append]; rfl⟩

/-- A central body is known once it is assumed. -/
theorem gm_mem_withGm (system : System Variable Float) : Variable.gm ∈ (withGm system).known := by
  unfold withGm needsGm
  split
  · have supplied : Variable.gm ∈ Supplied [[(Variable.gm, gmKerbin)]] :=
      ⟨_, List.mem_singleton_self _, gmKerbin, List.mem_singleton_self _⟩
    exact System.mem_run_of_supplied supplied
  · rename_i present
    simpa using present

/-- No central body is assumed where one is known. -/
theorem withGm_of_mem {system : System Variable Float} (member : Variable.gm ∈ system.known) :
    withGm system = system := by
  rw [withGm, needsGm, if_neg (by simp [member])]

/-- A central body that is not known after a run is one more addition to it. -/
theorem withGm_run_of_not_mem {additions : List (List (Variable × Float))}
    (absent : Variable.gm ∉ (Orbit.system.run additions).known) :
    withGm (Orbit.system.run additions) =
      Orbit.system.run (additions ++ [[(.gm, gmKerbin)]]) := by
  rw [System.run_append, withGm, needsGm, if_pos (by simp [absent])]
  rfl

/-- With a central body, a reached system is left by a run of at least one addition. -/
theorem Reached.withGm {system : System Variable Float} (reached : Reached system) :
    ∃ additions, additions ≠ [] ∧ withGm system = Orbit.system.run additions := by
  obtain ⟨additions, rfl⟩ := reached
  by_cases given : Variable.gm ∈ (Orbit.system.run additions).known
  · refine ⟨additions, ?_, withGm_of_mem given⟩
    -- Without any addition no central body would be known.
    rintro rfl
    exact absurd given (by decide)
  · exact ⟨_, by simp, withGm_run_of_not_mem given⟩

end Orbit

namespace Dialogue

/-- Whatever text is heard, the system is reached by additions. -/
theorem reached_hear {dialogue : Dialogue} (reached : Reached dialogue.system) (text : String) :
    Reached (dialogue.hear text).2.system := by
  obtain ⟨stage, system⟩ := dialogue
  -- Only a line that is read without a fault adds something.
  cases stage with
  | choice =>
    simp only [hear]
    split <;> exact reached
  | insertion =>
    simp only [hear]
    split
    · exact reached.add _
    · exact reached
  | bindings =>
    simp only [hear]
    split
    · exact reached
    · split
      · exact reached
      · split
        · exact reached.add _
        · exact reached
  | closed => exact reached

/-- Whatever line is received, the system is reached by additions. -/
theorem reached_receive {dialogue : Dialogue} (reached : Reached dialogue.system)
    (line : List UInt8) : Reached (dialogue.receive line).2.system := by
  unfold receive
  split
  · exact reached
  · split
    · exact reached_hear reached _
    · exact reached

/-- Also at the end of the input, the system is reached by additions. -/
theorem reached_finish {dialogue : Dialogue} (reached : Reached dialogue.system) :
    Reached dialogue.finish.2.system := by
  unfold finish
  split
  · exact reached_hear reached ""
  · exact reached_hear reached ""
  · exact reached
  · exact reached

/-- A dialogue over any lines leads to a system that is reached by additions. -/
theorem reached_converse {dialogue : Dialogue} (reached : Reached dialogue.system)
    (lines : List (List UInt8)) : Reached (dialogue.converse lines).2.system := by
  -- The induction is on the lines still to come.
  induction lines generalizing dialogue with
  | nil => exact reached_finish reached
  | cons line rest ih => exact ih (reached_receive reached line)

/-- The result of a whole dialogue, if it does not fail, is reached by additions. -/
theorem reached_run {input : List UInt8} {system : System Variable Float}
    (led : (run Orbit.system input).2.result = .ok system) : Reached system := by
  have reached : Reached (run Orbit.system input).2.system :=
    reached_converse ⟨[], rfl⟩ (lines input)
  unfold result at led
  split at led
  · exact absurd led (by simp)
  · exact Except.ok.inj led ▸ reached

end Dialogue

namespace Options

/-- A malformed binding decides. -/
theorem bindAll_cons_error {system : System Variable Float} {word : String} {error : InputError}
    (read : readBinding word = .error error) (rest : List String) :
    bindAll system (word :: rest) = .error error := by
  rw [bindAll, read]
  rfl

/-- A well-formed binding is set before the others are read. -/
theorem bindAll_cons_ok {system : System Variable Float} {word : String}
    {binding : Variable × Float} (read : readBinding word = .ok binding) (rest : List String) :
    bindAll system (word :: rest) = bindAll (system.add [binding]) rest := by
  rw [bindAll, read]
  rfl

/-- Bindings are set one after the other if all of them are well-formed, and otherwise none is. -/
theorem bindAll_eq_ok_iff {system later : System Variable Float} {words : List String} :
    bindAll system words = .ok later ↔
      ∃ bindings : List (Variable × Float), words.map readBinding = bindings.map .ok ∧
        later = system.run (bindings.map fun binding => [binding]) := by
  -- The induction is on the words still to read.
  induction words generalizing system with
  | nil =>
    constructor
    · intro bound
      exact ⟨[], rfl, (Except.ok.inj bound).symm⟩
    · rintro ⟨bindings, read, rfl⟩
      rw [List.map_eq_nil_iff.mp read.symm]
      rfl
  | cons word rest ih =>
    cases read : readBinding word with
    | error error =>
      -- A malformed word is not the reading of any binding.
      rw [bindAll_cons_error read]
      constructor
      · simp
      · rintro ⟨_ | ⟨first, others⟩, same, -⟩
        · simp at same
        · simp [read] at same
    | ok binding =>
      rw [bindAll_cons_ok read, ih]
      constructor
      · rintro ⟨bindings, same, rfl⟩
        exact ⟨binding :: bindings, by rw [List.map_cons, read, same]; rfl, rfl⟩
      · rintro ⟨_ | ⟨first, others⟩, same, rfl⟩
        · simp at same
        · rw [List.map_cons, List.map_cons, read] at same
          obtain ⟨head, tail⟩ := List.cons.inj same
          exact ⟨others, tail, by rw [Except.ok.inj head]; rfl⟩

/-- Bindings are set exactly if each of them is well-formed, whatever is known before. -/
theorem exists_bindAll_iff {system : System Variable Float} {words : List String} :
    (∃ later, bindAll system words = .ok later) ↔
      ∀ word ∈ words, ∃ binding, readBinding word = .ok binding := by
  -- The induction is on the words still to read.
  induction words generalizing system with
  | nil => simp [bindAll]
  | cons word rest ih =>
    rw [List.forall_mem_cons]
    cases read : readBinding word with
    | error error => simp [bindAll_cons_error read]
    | ok binding => simp [bindAll_cons_ok read, ih]

/-- The system that well-formed arguments lead to is reached by additions. -/
theorem reached_bound {options : Options} {system : System Variable Float}
    (bound : options.bound = .ok system) : Reached system := by
  unfold Options.bound at bound
  split at bound
  · -- An insertion orbit is a single addition.
    rename_i arguments _
    cases read : readInsertion arguments with
    | error error =>
      rw [read] at bound
      nomatch bound
    | ok supplied =>
      rw [read] at bound
      exact ⟨[supplied], (Except.ok.inj bound).symm⟩
  · obtain ⟨bindings, -, rfl⟩ := bindAll_eq_ok_iff.mp bound
    exact ⟨_, rfl⟩

/-- Without a dialogue, a command reaches the system that its arguments lead to. -/
theorem bound_of_reach {options : Options} (asked : options.interactive = false)
    {input : List UInt8} {system : System Variable Float}
    (led : (options.reach input).2 = .ok system) : options.bound = .ok system := by
  rw [reach, if_neg (by simp [asked])] at led
  cases given : options.bound with
  | error error =>
    rw [given] at led
    nomatch led
  | ok other =>
    rw [given] at led
    exact congrArg Except.ok (Except.ok.inj led)

/-- The system that a command reaches, if it does not fail, is reached by additions. -/
theorem reached_reach {options : Options} {input : List UInt8} {system : System Variable Float}
    (led : (options.reach input).2 = .ok system) : Reached system := by
  cases asked : options.interactive with
  | true =>
    rw [reach, if_pos asked] at led
    exact Dialogue.reached_run led
  | false => exact reached_bound (bound_of_reach asked led)

end Options

/-- What a command shows is what it concludes from the system that it reaches. -/
theorem Options.solve_eq (options : Options) (input : List UInt8) :
    options.solve input = options.conclude (options.reach input).1 (options.reach input).2 := rfl

/-- A command that succeeds has printed the version or the help, or has reached a system. -/
theorem solve_of_success {arguments : List String} {input : List UInt8}
    (succeeds : (runCommand arguments input).exitCode = 0)
    (noVersion : Request.ofWords? arguments ≠ some .version)
    (noHelp : Request.ofWords? arguments ≠ some .help) :
    ∃ options system, Request.ofWords? arguments = some (.solve options) ∧
      runCommand arguments input = options.solve input ∧ (options.reach input).2 = .ok system := by
  cases asked : Request.ofWords? arguments with
  | none =>
    rw [runCommand, asked] at succeeds
    cases succeeds
  | some request =>
    cases request with
    | version => exact absurd asked noVersion
    | help => exact absurd asked noHelp
    | solve options =>
      have solved : runCommand arguments input = options.solve input := by rw [runCommand, asked]
      rw [solved, Options.solve_eq] at succeeds
      cases led : (options.reach input).2 with
      | error failure =>
        -- A failure does not exit with zero.
        rw [led] at succeeds
        exact absurd succeeds (by simp [Options.conclude])
      | ok system => exact ⟨options, system, rfl, solved, led⟩

/-- Arguments that lead to a system decide what is shown; no input is read. -/
theorem Options.solve_of_bound {options : Options} (asked : options.interactive = false)
    {system : System Variable Float} (bound : options.bound = .ok system) (input : List UInt8) :
    options.solve input = ⟨0, options.present (withGm system), ""⟩ := by
  have reach : options.reach input = ("", .ok system) := by
    rw [Options.reach, asked, bound]
    rfl
  rw [Options.solve_eq, reach, Options.conclude, String.empty_append]

/-- A fault in the arguments is reported, and nothing else is shown. -/
theorem Options.solve_of_fault {options : Options} (asked : options.interactive = false)
    {error : InputError} (bound : options.bound = .error error) (input : List UInt8) :
    options.solve input = ⟨1, "", "error: " ++ error.message ++ "\n"⟩ := by
  have reach : options.reach input = ("", .error (.input error)) := by
    rw [Options.reach, asked, bound]
    rfl
  rw [Options.solve_eq, reach]
  rfl

/-- Options with bindings are not asked for in a dialogue. -/
theorem Options.interactive_of_bindings {words : List String} (given : words ≠ []) (json : Bool) :
    (⟨words, none, json⟩ : Options).interactive = false := by
  simp [Options.interactive, given]

/-- A command with nothing but bindings shows what setting them leads to, and reads no input. -/
theorem runCommand_of_bindings {words : List String} (given : words ≠ [])
    (plain : ∀ word ∈ words, Request.isOption word = false) {system : System Variable Float}
    (bound : Options.bindAll Orbit.system words = .ok system) (input : List UInt8) :
    runCommand words input = ⟨0, Options.present ⟨words, none, false⟩ (withGm system), ""⟩ := by
  rw [runCommand, Request.ofWords?_of_plain plain]
  exact Options.solve_of_bound (Options.interactive_of_bindings given false) bound input

end TwoBody
