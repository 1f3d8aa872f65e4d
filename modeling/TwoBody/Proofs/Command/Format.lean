import TwoBody.Proofs.Command.Printed
import TwoBody.Proofs.Number.Tie

/-!
Formats: a command tells the same in JSON as in text.

The option for JSON changes nothing but the format of the result. The two writers are apart, yet
both list the known variables in the order of their ranks, and write nearly always the same numbers.
-/

namespace TwoBody

open Orbit

namespace Options

/-- The same options with this format of the result. -/
def withFormat (options : Options) (json : Bool) : Options :=
  { options with json := json }

/-- The format of the result does not decide whether options are consistent. -/
@[simp] theorem consistent_withFormat (options : Options) (json : Bool) :
    (options.withFormat json).consistent = options.consistent := rfl

/-- The format of the result does not decide which system is reached, or how. -/
@[simp] theorem reach_withFormat (options : Options) (json : Bool) (input : List UInt8) :
    (options.withFormat json).reach input = options.reach input := rfl

/-- The format of the result does not decide which bindings it is made of. -/
@[simp] theorem results_withFormat (options : Options) (json : Bool) (input : List UInt8) :
    (options.withFormat json).results input = options.results input := rfl

/-- The results are the known bindings of the system that is reached, with a central body. -/
theorem results_of_reach {options : Options} {input : List UInt8} {system : System Variable Float}
    (led : (options.reach input).2 = .ok system) :
    options.results input = entries (Orbit.withGm system).known := by
  rw [results, led]

/-- Where a system is reached, the results are printed in the format that is asked for. -/
theorem solve_eq_printed {options : Options} {input : List UInt8} {system : System Variable Float}
    (led : (options.reach input).2 = .ok system) :
    options.solve input =
      ⟨0, (options.reach input).1 ++ options.printed (options.results input), ""⟩ := by
  rw [solve_eq, led, conclude, present_eq_printed (gm_mem_withGm system), results_of_reach led]

end Options

namespace Request

/-- The same request with this format of the result. -/
def withFormat (json : Bool) : Request → Request
  | .version => .version
  | .help => .help
  | .solve options => .solve (options.withFormat json)

/-- Options are settled alike for each format. -/
theorem settle_withFormat (options : Options) (json : Bool) :
    settle (options.withFormat json) = (settle options).map (withFormat json) := by
  rw [settle, settle, Options.consistent_withFormat]
  split <;> rfl

/-- Where the option for JSON does not occur, words are read alike for each format. -/
theorem read_withFormat {words : List String} (absent : "--json" ∉ words) (options : Options)
    (json : Bool) (taken : Taken) :
    read (options.withFormat json) taken words =
      (read options taken words).map (withFormat json) := by
  -- The induction follows the branches of the reader, in which the format is only handed on.
  fun_induction read options taken words with
  | case1 options taken complete =>
    rw [read, if_pos complete]
    exact settle_withFormat options json
  | case2 options taken incomplete =>
    rw [read, if_neg incomplete]
    rfl
  | case3 options taken word rest option incomplete =>
    rw [read.eq_def]
    simp [option, incomplete]
  | case4 options taken rest complete option =>
    rw [read.eq_def]
    simp only [if_pos option, if_neg complete, if_true]
    exact settle_withFormat { options with bindings := options.bindings ++ rest } json
  | case5 => exact absurd List.mem_cons_self absent
  | case6 => exact absurd List.mem_cons_self absent
  | case7 options taken word rest option complete regular other begins ih =>
    rw [read.eq_def]
    simp only [if_pos option, if_neg complete, if_neg regular, if_neg other, if_pos begins]
    exact ih (List.not_mem_of_not_mem_cons absent)
  | case8 options taken word rest option complete regular other continues version =>
    rw [read.eq_def]
    simp only [if_pos option, if_neg complete, if_neg regular, if_neg other, if_neg continues,
      if_pos version]
    rfl
  | case9 options taken word rest option complete regular other continues unlike help =>
    rw [read.eq_def]
    simp only [if_pos option, if_neg complete, if_neg regular, if_neg other, if_neg continues,
      if_neg unlike, if_pos help]
    rfl
  | case10 options taken word rest option complete regular other continues unlike unknown =>
    rw [read.eq_def]
    simp only [if_pos option, if_neg complete, if_neg regular, if_neg other, if_neg continues,
      if_neg unlike, if_neg unknown]
    rfl
  | case11 options word rest plain count room ih =>
    rw [read, if_neg plain]
    simp only [if_pos room]
    exact ih (List.not_mem_of_not_mem_cons absent)
  | case12 options word rest plain count full ih =>
    rw [read, if_neg plain]
    simp only [if_neg full]
    exact ih (List.not_mem_of_not_mem_cons absent)
  | case13 options word rest plain ih =>
    rw [read, if_neg plain]
    exact ih (List.not_mem_of_not_mem_cons absent)

/-- The option for JSON in front of words without it changes the format of the result only. -/
theorem ofWords?_jsonFlag_append {words : List String} (absent : "--json" ∉ words) (json : Bool) :
    ofWords? (jsonFlag json ++ words) = (ofWords? words).map (withFormat json) := by
  have alike := read_withFormat absent Options.empty json none
  cases json with
  | false => exact alike
  | true => exact (read_jsonFlag_append rfl rfl words).trans alike

end Request

/-- A command that succeeds prints the same results in either format. -/
theorem runCommand_jsonFlag_append {arguments : List String} {input : List UInt8}
    (absent : "--json" ∉ arguments) (noVersion : Request.ofWords? arguments ≠ some .version)
    (noHelp : Request.ofWords? arguments ≠ some .help)
    (succeeds : (runCommand arguments input).exitCode = 0) :
    ∃ options, Request.ofWords? arguments = some (.solve options) ∧
      ((options.results input).map Prod.fst).Nodup ∧
      ∀ json, runCommand (jsonFlag json ++ arguments) input =
        ⟨0, (options.reach input).1 ++
          (options.withFormat json).printed (options.results input), ""⟩ := by
  obtain ⟨options, system, asked, -, led⟩ := solve_of_success succeeds noVersion noHelp
  refine ⟨options, asked, ?_, fun json => ?_⟩
  · rw [Options.results_of_reach led]
    exact nodup_map_fst_entries _
  · have request : Request.ofWords? (jsonFlag json ++ arguments) =
        some (.solve (options.withFormat json)) := by
      rw [Request.ofWords?_jsonFlag_append absent, asked]
      rfl
    -- The format does not matter before the results are printed.
    have same : ((options.withFormat json).reach input).2 = .ok system := by
      rw [Options.reach_withFormat, led]
    have solved := Options.solve_eq_printed same
    rw [Options.reach_withFormat, Options.results_withFormat] at solved
    rw [runCommand, request]
    exact solved

/--
A command tells the same in JSON as in text.

If a command computes an orbit and succeeds, so it does with the option for JSON in front. It prints
the same prompts, and then the same names in the same order. What is infinite or not a number is
null. Any other number is the same exact number in both, and has the same sign also if it is a zero,
unless it lies half way between two shortest decimals of which the lower one is even: then the text
has the upper one, and JSON the lower one.
-/
theorem runCommand_formats_agree {arguments : List String} {input : List UInt8}
    (absent : "--json" ∉ arguments) (noVersion : Request.ofWords? arguments ≠ some .version)
    (noHelp : Request.ofWords? arguments ≠ some .help)
    (succeeds : (runCommand arguments input).exitCode = 0) :
    ∃ options, Request.ofWords? arguments = some (.solve options) ∧
      let prompts := (options.reach input).1
      let shown := options.results input
      runCommand arguments input = ⟨0, prompts ++ unlines (shown.map reportLine), ""⟩ ∧
      runCommand ("--json" :: arguments) input = ⟨0, prompts ++
        ("\x7b\n" ++ String.intercalate ",\n" (shown.map jsonMember) ++ "\n\x7d\n"), ""⟩ ∧
      (shown.map Prod.fst).Nodup ∧ ∀ binding ∈ shown,
        let text := Layout.plain.render binding.2
        let member := Layout.json.render binding.2
        reportLine binding = binding.1.name ++ " = " ++ text ∧ PlainText binding.2 text ∧
        jsonMember binding = "  \"" ++ binding.1.name ++ "\": " ++ member ∧
        JsonText binding.2 member ∧
        (member = "null" ↔ text ∈ ["NaN", "inf", "-inf"]) ∧
        (member ≠ "null" → DenoteAlike binding.2 text member) := by
  obtain ⟨options, asked, distinct, printed⟩ :=
    runCommand_jsonFlag_append absent noVersion noHelp succeeds
  refine ⟨options, asked, ?_, ?_, distinct, fun binding _ => ?_⟩
  · exact printed false
  · exact printed true
  · exact ⟨rfl, Layout.plainText_render binding.2, jsonMember_eq binding,
      Layout.jsonText_render binding.2, Layout.json_render_eq_null_iff binding.2,
      Layout.denoteAlike_of_ne_null⟩

/-- Of a number as far from one shortest decimal as from another, the text is not the JSON. -/
theorem runCommand_formats_differ_at_tie :
    let arguments := ["GM=721033880632639.25"]
    let lower := "721033880632639.2"
    let upper := "721033880632639.3"
    "--json" ∉ arguments ∧ Request.ofWords? arguments ≠ some .version ∧
    Request.ofWords? arguments ≠ some .help ∧
    runCommand arguments [] = ⟨0, "GM = " ++ upper ++ "\n", ""⟩ ∧
    runCommand ("--json" :: arguments) [] =
      ⟨0, "\x7b\n  \"GM\": " ++ lower ++ "\n\x7d\n", ""⟩ ∧
    -- Both are read back as the number, and no decimal with fewer digits is.
    readFloat? lower.toList = some 721033880632639.25 ∧
    readFloat? upper.toList = some 721033880632639.25 ∧
    readFloat? "721033880632639".toList ≠ some 721033880632639.25 ∧
    readFloat? "721033880632640".toList ≠ some 721033880632639.25 ∧
    exactNumber? lower.toList = some (false, 721033880632639.2) ∧
    exactNumber? upper.toList = some (false, 721033880632639.3) := by
  decide +kernel

/-- A dialogue with a tie, a zero with a sign, no number and one that JSON has an exponent for. -/
theorem runCommand_formats_agree_dialogue :
    let input := "no\nGM=721033880632639.25\ne=-0\nperiod=nan\nVp=1e-7\nexit\n".toUTF8.toList
    let options : Options := ⟨[], none, false⟩
    let prompts := (options.reach input).1
    let shown := options.results input
    "--json" ∉ ([] : List String) ∧ Request.ofWords? [] ≠ some .version ∧
    Request.ofWords? [] ≠ some .help ∧ (runCommand [] input).exitCode = 0 ∧
    Request.ofWords? [] = some (.solve options) ∧
    runCommand [] input = ⟨0, prompts ++ unlines (shown.map reportLine), ""⟩ ∧
    runCommand ["--json"] input = ⟨0, prompts ++
      ("\x7b\n" ++ String.intercalate ",\n" (shown.map jsonMember) ++ "\n\x7d\n"), ""⟩ ∧
    shown.map reportLine = ["GM = 721033880632639.3", "period = NaN", "Rp = NaN",
      "Vp = 0.0000001", "Ra = NaN", "Va = NaN", "e = -0", "a = NaN"] ∧
    shown.map jsonMember = ["  \"GM\": 721033880632639.2", "  \"period\": null",
      "  \"Rp\": null", "  \"Vp\": 1e-7", "  \"Ra\": null", "  \"Va\": null",
      "  \"e\": -0.0", "  \"a\": null"] ∧
    DenoteAlike 721033880632639.25 "721033880632639.3" "721033880632639.2" ∧
    DenoteAlike (-0.0) "-0" "-0.0" := by
  intro input options prompts shown
  have absent : "--json" ∉ ([] : List String) := List.not_mem_nil
  have noVersion : Request.ofWords? [] ≠ some .version := by decide
  have noHelp : Request.ofWords? [] ≠ some .help := by decide
  have succeeds : (runCommand [] input).exitCode = 0 := by decide +kernel
  obtain ⟨others, asked, text, json, -, alike⟩ :=
    runCommand_formats_agree absent noVersion noHelp succeeds
  have plain : Request.ofWords? [] = some (.solve options) := by decide
  obtain rfl : options = others := Request.solve.inj (Option.some.inj (plain.symm.trans asked))
  have results : shown = [(.gm, 721033880632639.25), (.period, 0 / 0), (.periRadius, 0 / 0),
      (.periVelocity, 1e-7), (.apoRadius, 0 / 0), (.apoVelocity, 0 / 0), (.eccentricity, -0.0),
      (.semiMajorAxis, 0 / 0)] := by decide +kernel
  have lines : shown.map reportLine = ["GM = 721033880632639.3", "period = NaN", "Rp = NaN",
      "Vp = 0.0000001", "Ra = NaN", "Va = NaN", "e = -0", "a = NaN"] := by
    rw [results]
    decide +kernel
  have members : shown.map jsonMember = ["  \"GM\": 721033880632639.2", "  \"period\": null",
      "  \"Rp\": null", "  \"Vp\": 1e-7", "  \"Ra\": null", "  \"Va\": null",
      "  \"e\": -0.0", "  \"a\": null"] := by
    rw [results]
    decide +kernel
  have tie : (Variable.gm, 721033880632639.25) ∈ shown := by simp [results]
  have zero : (Variable.eccentricity, -0.0) ∈ shown := by simp [results]
  obtain ⟨-, -, -, -, -, tied⟩ := alike _ tie
  obtain ⟨-, -, -, -, -, signed⟩ := alike _ zero
  exact ⟨absent, noVersion, noHelp, succeeds, asked, text, json, lines, members,
    tied (by decide +kernel), signed (by decide +kernel)⟩

end TwoBody
