import TwoBody.Proofs.Command.Reach
import TwoBody.Proofs.Input.ResultLine
import TwoBody.Proofs.System.Replay

/-!
Replay: a command that gets the lines printed by another one as its arguments prints them again.

The arguments are added one by one, so values are derived from the first of them that come later in
the list. These are overwritten in their turn, and nothing is derived that was not printed.
-/

namespace TwoBody

open Orbit Std

namespace Orbit

/-- A run that sets the known variables one after the other makes the same known. -/
theorem known_run_entries {additions : List (List (Variable × Float))} (started : additions ≠ []) :
    let known := (Orbit.system.run additions).known
    (Orbit.system.run ((entries known).map fun binding => [binding])).known = known := by
  intro known
  have single : ((entries known).map fun binding => [binding]).flatten = entries known := by
    rw [← List.flatMap_def, List.flatMap_singleton']
  have decided := System.decided_of_silent_or_speaks nodup_of_mem_tables
    silent_or_speaks_of_mem_tables
  refine System.known_run_replay (decided additions) started (decided _) ?_
    fun name value found => ?_
  · -- Only known variables are supplied.
    rintro name ⟨supplied, member, value, given⟩
    have listed : (name, value) ∈ entries known := single ▸ List.mem_flatten_of_mem member given
    exact (ExtTreeMap.getElem?_eq_some_iff.mp (mem_entries.mp listed)).1
  · -- Each of them is supplied once, with its value.
    refine LastSupplied.of_nodup ?_ ?_
    · rw [single]
      exact nodup_map_fst_entries known
    · rw [single]
      exact mem_entries.mpr found

/-- A result line is no option. -/
theorem isOption_reportLine (binding : Variable × Float) :
    Request.isOption (reportLine binding) = false := by
  -- It begins with the name of a variable.
  unfold Request.isOption
  rw [toList_reportLine]
  cases binding.1 <;> rfl

/-- A report has a line if a variable is known. -/
theorem map_reportLine_ne_nil {known : Bindings Variable Float} {symbol : Variable}
    (member : symbol ∈ known) : (entries known).map reportLine ≠ [] := by
  have listed : (symbol, known[symbol]) ∈ entries known :=
    mem_entries.mpr (ExtTreeMap.getElem?_eq_some_getElem member)
  exact List.ne_nil_of_mem (List.mem_map_of_mem listed)

end Orbit

/-- Lines of text, each with its end. -/
def unlines (lines : List String) : String :=
  String.join (lines.map (· ++ "\n"))

/-- Lines that are divided by line ends, with one more at the end. -/
theorem intercalate_append_newline {lines : List String} (some : lines ≠ []) :
    String.intercalate "\n" lines ++ "\n" = unlines lines := by
  induction lines with
  | nil => exact absurd rfl some
  | cons line rest ih =>
    cases rest with
    | nil => simp [unlines]
    | cons next others =>
      rw [String.intercalate_cons_cons, String.append_assoc, ih (by simp)]
      simp [unlines]

namespace Options

/-- The bindings that a command prints, in order; there are none if it fails. -/
def results (options : Options) (input : List UInt8) : List (Variable × Float) :=
  match (options.reach input).2 with
  | .ok system => entries (withGm system).known
  | .error _ => []

/-- A report with at least one variable is printed as its lines. -/
theorem present_of_mem {options : Options} (text : options.json = false)
    {system : System Variable Float} {symbol : Variable} (member : symbol ∈ system.known) :
    options.present system = unlines ((entries system.known).map reportLine) := by
  rw [present, if_neg (by simp [text])]
  exact intercalate_append_newline (map_reportLine_ne_nil member)

/-- The result lines of a run lead to a system that knows the same. -/
theorem bindAll_result_lines {additions : List (List (Variable × Float))}
    (started : additions ≠ []) :
    let known := (Orbit.system.run additions).known
    (∀ binding ∈ entries known, ReadsBack binding.2) →
      ∃ later, bindAll Orbit.system ((entries known).map reportLine) = .ok later ∧
        later.known = known := by
  intro known readsBack
  refine ⟨_, bindAll_eq_ok_iff.mpr ⟨entries known, ?_, rfl⟩, known_run_entries started⟩
  -- Each line is read as its entry.
  rw [List.map_map]
  exact List.map_congr_left fun binding member => readBinding_reportLine (readsBack binding member)

end Options

/-- A command that gets the result lines of a run with a central body prints these lines. -/
theorem runCommand_entries {additions : List (List (Variable × Float))} (started : additions ≠ []) :
    let known := (Orbit.system.run additions).known
    let lines := (entries known).map reportLine
    Variable.gm ∈ known → (∀ binding ∈ entries known, ReadsBack binding.2) →
      ∀ input, runCommand lines input = ⟨0, unlines lines, ""⟩ := by
  intro known lines gm readsBack input
  obtain ⟨later, bound, same⟩ := Options.bindAll_result_lines started readsBack
  have plain : ∀ line ∈ lines, Request.isOption line = false :=
    List.forall_mem_map.mpr fun binding _ => isOption_reportLine binding
  -- The central body is known again, so none is assumed.
  have still : Variable.gm ∈ later.known := by rw [same]; exact gm
  rw [runCommand_of_bindings (map_reportLine_ne_nil gm) plain bound, withGm_of_mem still,
    Options.present_of_mem rfl still, same]

/--
A command prints the same lines again when it gets those that it has printed as arguments.

That holds of every command that succeeds in printing text, whether its parameters come from a
dialogue or from arguments. Of its output, only the lines with results are given back. All that is
assumed is that the printed numbers are read as what they are.
-/
theorem runCommand_result_lines {arguments : List String} {input : List UInt8} {options : Options}
    (asked : Request.ofWords? arguments = some (.solve options)) (text : options.json = false)
    (succeeds : (runCommand arguments input).exitCode = 0)
    (readsBack : ∀ binding ∈ options.results input, ReadsBack binding.2) :
    let lines := (options.results input).map reportLine
    runCommand arguments input = ⟨0, (options.reach input).1 ++ unlines lines, ""⟩ ∧
    (∀ line ∈ lines, '\n' ∉ line.toList) ∧
    ∀ other, runCommand lines other = ⟨0, unlines lines, ""⟩ := by
  have solved : runCommand arguments input = options.solve input := by rw [runCommand, asked]
  rw [Options.solve_eq] at solved
  cases led : (options.reach input).2 with
  | error failure =>
    -- A failure does not exit with zero.
    rw [solved, led] at succeeds
    exact absurd succeeds (by simp [Options.conclude])
  | ok system =>
    have results : options.results input = entries (withGm system).known := by
      rw [Options.results, led]
    have gm := gm_mem_withGm system
    rw [results] at readsBack ⊢
    refine ⟨?_, ?_, ?_⟩
    · rw [solved, led, Options.conclude, Options.present_of_mem text gm]
    · exact List.forall_mem_map.mpr fun binding _ => newline_not_mem_reportLine binding
    · -- Whatever has led to the system, it is left by a run of additions.
      obtain ⟨additions, started, ran⟩ := (Options.reached_reach led).withGm
      rw [ran] at readsBack gm ⊢
      exact runCommand_entries started gm readsBack

/-- The orbit of a dialogue, in which a malformed line is reported and the central body assumed. -/
theorem runCommand_result_lines_dialogue :
    let options : Options := ⟨[], none, false⟩
    let input : List UInt8 := "no\nRp=3\nRa\nRa=5\nexit\n".toUTF8.toList
    let lines := ["GM = 3531600000000", "period = 0.000026747555742808635", "Rp = 3",
      "Vp = 1213053.9971493438", "Ra = 5", "Va = 727832.3982896062", "e = 0.25", "a = 4"]
    Request.ofWords? [] = some (.solve options) ∧ options.json = false ∧
    (runCommand [] input).exitCode = 0 ∧
    (∀ binding ∈ options.results input, ReadsBack binding.2) ∧
    (options.results input).map reportLine = lines ∧
    runCommand [] input = ⟨0, (options.reach input).1 ++ unlines lines, ""⟩ ∧
    ∀ other, runCommand lines other = ⟨0, unlines lines, ""⟩ := by
  intro options input lines
  have asked : Request.ofWords? [] = some (.solve options) := by decide +kernel
  have succeeds : (runCommand [] input).exitCode = 0 := by decide +kernel
  have readsBack : ∀ binding ∈ options.results input, ReadsBack binding.2 := by decide +kernel
  have printed : (options.results input).map reportLine = lines := by decide +kernel
  obtain ⟨shown, -, again⟩ := runCommand_result_lines asked rfl succeeds readsBack
  rw [printed] at shown again
  exact ⟨asked, rfl, succeeds, readsBack, printed, shown, again⟩

end TwoBody
