import TwoBody.Proofs.Command.Printed
import TwoBody.Proofs.Orbit.Derivable

/-!
The central body: one is assumed only where none is supplied or follows from what is supplied.

Assuming it changes no known value, so a command never replaces a gravitational parameter.
-/

namespace TwoBody

open Orbit Std

namespace Orbit

open Variable

/-- A central body is needed exactly if none is known. -/
theorem needsGm_eq_true_iff {system : System Variable Float} :
    needsGm system = true ↔ gm ∉ system.known := by
  simp [needsGm]

/-- No central body has to be assumed after one was. -/
theorem needsGm_withGm (system : System Variable Float) : needsGm (withGm system) = false := by
  simpa [needsGm] using gm_mem_withGm system

/-- A central body that is assumed has the default parameter, and no known value is changed. -/
theorem known_withGm {system : System Variable Float}
    (additive : ∀ formula ∈ system.pending, formula.Additive) (needed : needsGm system = true) :
    (withGm system).known[gm]? = some gmKerbin ∧ system.known.KeptIn (withGm system).known := by
  have absent := needsGm_eq_true_iff.mp needed
  rw [withGm, if_pos needed]
  constructor
  · -- The addition supplies the parameter last.
    have last : LastSupplied [[(gm, gmKerbin)]] gm gmKerbin := ⟨[], [], rfl, by simp⟩
    exact System.getElem?_run_of_lastSupplied additive last
  · intro symbol value found
    have known : symbol ∈ system.known := (ExtTreeMap.getElem?_eq_some_iff.mp found).1
    refine System.getElem?_add_of_unnamed additive found fun binding member => ?_
    rw [List.mem_singleton.mp member]
    rintro rfl
    exact absent known

/-- A run needs a central body if none is supplied and none follows from what is. -/
theorem needsGm_run_iff (additions : List (List (Variable × Float))) :
    needsGm (system.run additions) = true ↔
      gm ∉ Supplied additions ∧ ¬ Derivable (Supplied additions) gm := by
  rw [needsGm_eq_true_iff, mem_known_run_iff_derivable]
  exact ⟨fun apart => ⟨fun member => apart (.given member), apart⟩, And.right⟩

/-- The pending formulas of a run only yield values for variables that have none. -/
theorem additive_of_mem_pending_run (additions : List (List (Variable × Float))) :
    ∀ formula ∈ (system.run additions).pending, formula.Additive :=
  System.forall_mem_pending_run additive_of_mem_formulas additions

/-- A central body that is supplied is not replaced. -/
theorem getElem?_withGm_of_lastSupplied {additions : List (List (Variable × Float))} {value : Float}
    (last : LastSupplied additions gm value) :
    (withGm (system.run additions)).known[gm]? = some value := by
  have found := getElem?_run_of_lastSupplied last
  rwa [withGm_of_mem (ExtTreeMap.getElem?_eq_some_iff.mp found).1]

/-- Where a central body is known, it comes first. -/
theorem exists_entries_eq_cons {known : Bindings Variable Float} {value : Float}
    (found : known[gm]? = some value) : ∃ others, entries known = (gm, value) :: others := by
  refine ⟨_, List.filterMap_cons_some ?_⟩
  rw [found]
  rfl

end Orbit

/-- A command that computes an orbit and succeeds prints what is known with a central body. -/
theorem runCommand_of_success {arguments : List String} {input : List UInt8}
    (succeeds : (runCommand arguments input).exitCode = 0)
    (noVersion : Request.ofWords? arguments ≠ some .version)
    (noHelp : Request.ofWords? arguments ≠ some .help) :
    ∃ options, Request.ofWords? arguments = some (.solve options) ∧
      runCommand arguments input = ⟨0, (options.reach input).1 ++ options.printed
        (entries (withGm (Orbit.system.run (options.supplies input))).known), ""⟩ := by
  obtain ⟨options, system, asked, solved, led⟩ := solve_of_success succeeds noVersion noHelp
  refine ⟨options, asked, ?_⟩
  rw [solved, Options.solve_eq, led, Options.conclude, Options.system_of_reach led,
    Options.present_eq_printed (gm_mem_withGm _)]

/--
The default central body is a last resort, and disturbs nothing.

It is assumed exactly if no gravitational parameter is supplied and none follows from what is, and
then it changes no known value. So a command that computes an orbit and succeeds prints exactly one
gravitational parameter, which is the last one that was supplied if there was any. It is on the
first line of text, or else the first member of the JSON object.
-/
theorem gm_assumed_as_last_resort :
    (∀ additions : List (List (Variable × Float)),
      let system := Orbit.system.run additions
      (needsGm system = true ↔
        Variable.gm ∉ Supplied additions ∧ ¬ Derivable (Supplied additions) Variable.gm) ∧
      (needsGm system = true → (withGm system).known[Variable.gm]? = some gmKerbin ∧
        system.known.KeptIn (withGm system).known) ∧
      (needsGm system = false → withGm system = system) ∧ needsGm (withGm system) = false) ∧
    ∀ arguments input, Request.ofWords? arguments ≠ some .version →
      Request.ofWords? arguments ≠ some .help → (runCommand arguments input).exitCode = 0 →
      ∃ options value others output,
        Request.ofWords? arguments = some (.solve options) ∧
        runCommand arguments input = ⟨0, (options.reach input).1 ++ output, ""⟩ ∧
        Prints ((Variable.gm, value) :: others) options.json output ∧
        (((Variable.gm, value) :: others).map Prod.fst).Nodup ∧
        (options.json = false → ∃ text rest, PlainText value text ∧
          output = "GM = " ++ text ++ "\n" ++ rest) ∧
        (options.json = true → ∃ text rest, JsonText value text ∧
          (rest = "\n\x7d\n" ∨ ∃ later, rest = ",\n" ++ later) ∧
          output = "\x7b\n  \"GM\": " ++ text ++ rest) ∧
        ∀ last, LastSupplied (options.supplies input) Variable.gm last → value = last := by
  refine ⟨fun additions => ⟨needsGm_run_iff additions,
    known_withGm (additive_of_mem_pending_run additions), fun known => ?_, needsGm_withGm _⟩, ?_⟩
  · rw [withGm, if_neg (by simp [known])]
  · intro arguments input noVersion noHelp succeeds
    obtain ⟨options, asked, outcome⟩ := runCommand_of_success succeeds noVersion noHelp
    have found := ExtTreeMap.getElem?_eq_some_getElem
      (gm_mem_withGm (Orbit.system.run (options.supplies input)))
    obtain ⟨others, first⟩ := exists_entries_eq_cons found
    have distinct := nodup_map_fst_entries
      (withGm (Orbit.system.run (options.supplies input))).known
    have prints := prints_printed options
      (entries (withGm (Orbit.system.run (options.supplies input))).known)
    rw [first] at distinct outcome prints
    refine ⟨options, _, others, _, asked, outcome, prints, distinct, fun text => ?_, fun json => ?_,
      fun last supplied => ?_⟩
    · rw [text] at prints
      obtain ⟨shown, rest, tells, -, same⟩ := prints.text_cons
      exact ⟨shown, rest, tells, same⟩
    · rw [json] at prints
      exact prints.json_cons
    · exact Option.some.inj (found.symm.trans (getElem?_withGm_of_lastSupplied supplied))

/--
A command that prints the version succeeds, but prints no gravitational parameter; JSON has null for
one that is infinite.
-/
theorem runCommand_without_gm :
    (runCommand ["--version"] []).exitCode = 0 ∧
    (∀ value,
      ¬ (reportLine (.gm, value)).toList <:+: (runCommand ["--version"] []).stdout.toList) ∧
    Options.supplies ⟨["GM=inf"], none, true⟩ [] = [[(.gm, 1 / 0)]] ∧
    runCommand ["--json", "GM=inf"] [] = ⟨0, "\x7b\n  \"GM\": null\n\x7d\n", ""⟩ := by
  refine ⟨by decide +kernel, fun value inside => ?_, by decide +kernel, by decide +kernel⟩
  -- The name of the parameter has a letter that is not printed.
  have letter : 'G' ∈ (reportLine (.gm, value)).toList := by
    rw [reportLine, String.toList_append, String.toList_append]
    simp [Variable.name]
  exact absurd (inside.subset letter) (by decide +kernel)

/--
A period and an apsis do not tell the central body, so the default is assumed; a period and an axis
do. Of two that are set, the second one is printed.
-/
theorem gm_assumed_as_last_resort_overwritten :
    let additions : List (List (Variable × Float)) := [[(.period, 2)], [(.apoRadius, 3)]]
    let system := Orbit.system.run additions
    let complete := Orbit.system.run [[(.period, 2)], [(.semiMajorAxis, 3)]]
    let arguments := ["GM=5", "a=1", "GM:7"]
    ¬ Derivable (Supplied additions) Variable.gm ∧
    (withGm system).known[Variable.gm]? = some gmKerbin ∧
    system.known.KeptIn (withGm system).known ∧ withGm complete = complete ∧
    Request.ofWords? arguments ≠ some .version ∧ Request.ofWords? arguments ≠ some .help ∧
    (runCommand arguments []).exitCode = 0 ∧
    ∃ text rest, PlainText 7 text ∧
      runCommand arguments [] = ⟨0, "GM = " ++ text ++ "\n" ++ rest, ""⟩ := by
  intro additions system complete arguments
  obtain ⟨runs, commands⟩ := gm_assumed_as_last_resort
  have needed : needsGm system = true := by decide +kernel
  obtain ⟨iff_lacks, assumed, -, -⟩ := runs additions
  obtain ⟨default, kept⟩ := assumed needed
  obtain ⟨-, -, still, -⟩ := runs [[(.period, 2)], [(.semiMajorAxis, 3)]]
  have unchanged : withGm complete = complete := still (by decide +kernel)
  have noVersion : Request.ofWords? arguments ≠ some .version := by decide +kernel
  have noHelp : Request.ofWords? arguments ≠ some .help := by decide +kernel
  have succeeds : (runCommand arguments []).exitCode = 0 := by decide +kernel
  obtain ⟨options, value, others, output, asked, outcome, -, -, inText, -, last⟩ :=
    commands arguments [] noVersion noHelp succeeds
  have plain : Request.ofWords? arguments = some (.solve ⟨arguments, none, false⟩) := by
    decide +kernel
  obtain rfl : (⟨arguments, none, false⟩ : Options) = options :=
    Request.solve.inj (Option.some.inj (plain.symm.trans asked))
  have supplied : Options.supplies ⟨arguments, none, false⟩ [] =
      [[(.gm, 5)], [(.semiMajorAxis, 1)], [(.gm, 7)]] := by decide +kernel
  obtain rfl := last 7 ⟨[(.gm, 5), (.semiMajorAxis, 1)], [], by rw [supplied]; rfl, nofun⟩
  obtain ⟨text, rest, tells, rfl⟩ := inText rfl
  have silent : (Options.reach ⟨arguments, none, false⟩ []).1 = "" := rfl
  rw [silent, String.empty_append] at outcome
  exact ⟨(iff_lacks.mp needed).2, default, kept, unchanged, noVersion, noHelp, succeeds, text, rest,
    tells, outcome⟩

end TwoBody
