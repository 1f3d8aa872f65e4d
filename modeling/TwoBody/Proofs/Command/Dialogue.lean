import TwoBody.Proofs.Command.Reach
import TwoBody.Proofs.Input.Binding
import TwoBody.Proofs.Text.Line
import TwoBody.Proofs.Text.Words

/-!
Dialogue: lines that give what arguments give lead to the same orbit.

A line may have more white space around it than an argument, and may lose a carriage return at its
end. Neither matters, because a dialogue looks only at what is left of a line between its white
space, or at its words.
-/

namespace TwoBody

open Orbit

namespace Dialogue

/-- A carriage return at the end of a text is not heard. -/
theorem hear_append_return (dialogue : Dialogue) (text : String) :
    dialogue.hear (text ++ "\r") = dialogue.hear text := by
  -- It is white space, which neither trimming nor the division into words keeps.
  have blank : ∀ character ∈ ['\r'], isBlank character := List.forall_mem_singleton.mpr (by decide)
  have trimmed : trim (text ++ "\r").toList = trim text.toList := by
    rw [String.toList_append]
    exact trim_append_blank text.toList blank
  have divided : words (text ++ "\r").toList = words text.toList := by
    rw [String.toList_append]
    exact (words_append_cons (by decide) text.toList []).trans (List.append_nil _)
  simp only [hear, trimmed, divided]

/-- A line with a text is received as this text. -/
theorem receive_of_hasText {line : List UInt8} {text : String} (read : HasText line text)
    (dialogue : Dialogue) : dialogue.receive line = dialogue.hear text := by
  obtain ⟨read, bytes, same⟩ := read
  have heard : dialogue.hear read = dialogue.hear text := by
    rcases same with rfl | rfl
    · rfl
    · exact (hear_append_return dialogue read).symm
  unfold receive
  split
  · -- A closed dialogue does not listen in either case.
    rename_i closed
    simp only [hear, closed]
  · rw [bytes, ← heard]

/-- Takes the given texts and the end of the input, and tells all that is written in reply. -/
def listen (dialogue : Dialogue) : List String → String × Dialogue
  | [] => dialogue.finish
  | text :: rest =>
    let heard := dialogue.hear text
    let listened := heard.2.listen rest
    (heard.1 ++ listened.1, listened.2)

/-- Lines with texts are received as these texts. -/
theorem converse_of_hasText {lines : List (List UInt8)} {texts : List String}
    (read : List.Forall₂ HasText lines texts) (dialogue : Dialogue) :
    dialogue.converse lines = dialogue.listen texts := by
  -- The induction is on the lines still to come.
  induction read generalizing dialogue with
  | nil => rfl
  | cons first rest ih => simp only [converse, listen, receive_of_hasText first, ih]

/-- A whole dialogue over texts that are divided by line feeds. -/
theorem run_of_texts {texts : List String} (given : texts ≠ [])
    (single : ∀ text ∈ texts, text ≠ "" ∧ '\n' ∉ text.toList) {ending : String}
    (ends : ending = "" ∨ ending = "\n") (system : System Variable Float) :
    let listened := (start system).listen texts
    run system (utf8 (String.intercalate "\n" texts ++ ending)) =
      (choiceQuestion ++ listened.1, listened.2) := by
  intro listened
  rw [run, converse_of_hasText (lines_utf8_intercalate given single ends)]

/-- A text with a separator is not the exit word. -/
theorem isWord_exitWord_of_separated {text : List Char} (separated : Separated text) :
    isWord exitWord text = false := by
  obtain ⟨separator, member, separates⟩ := separated
  refine decide_eq_false fun same => ?_
  have lower : separator.toLower ∈ exitWord.toList := same ▸ List.mem_map_of_mem member
  -- There are two separators, and neither is a letter of it.
  simp only [isSeparator, Bool.or_eq_true, beq_iff_eq] at separates
  rcases separates with rfl | rfl <;> exact absurd lower (by decide)

/-- A well-formed binding is added without a reply. -/
theorem hear_binding {text : String} {binding : Variable × Float}
    (read : readBinding text = .ok binding) (system : System Variable Float) :
    hear ⟨.bindings, system⟩ text = ("", ⟨.bindings, system.add [binding]⟩) := by
  -- What is left of the line still has its separator, so it is neither empty nor the exit word.
  have accepted : Accepted text := ⟨binding, read⟩
  have separated := accepted.separated.trim
  have nonempty : trim text.toList ≠ [] := by
    obtain ⟨separator, member, -⟩ := separated
    exact List.ne_nil_of_mem member
  simp only [hear, isWord_exitWord_of_separated separated, nonempty, accepted.readBinding_trim,
    read]
  rfl

/-- Well-formed bindings lead to the system that they lead to as arguments, without a reply. -/
theorem listen_bindings {texts : List String} {system later : System Variable Float}
    (bound : Options.bindAll system texts = .ok later) :
    listen ⟨.bindings, system⟩ texts = ("", ⟨.closed none, later⟩) := by
  -- The induction is on the texts still to come.
  induction texts generalizing system with
  | nil => rw [listen, finish, Except.ok.inj bound]
  | cons text rest ih =>
    cases accepted : readBinding text with
    | error error =>
      rw [Options.bindAll_cons_error accepted] at bound
      nomatch bound
    | ok binding =>
      rw [Options.bindAll_cons_ok accepted] at bound
      simp only [listen, hear_binding accepted, ih bound, String.append_empty]

/-- Once an insertion orbit is declined, bindings lead to their system. -/
theorem listen_no {texts : List String} {system later : System Variable Float}
    (bound : Options.bindAll system texts = .ok later) :
    (start system).listen ("no" :: texts) = (bindingsQuestion, ⟨.closed none, later⟩) := by
  have declined : (start system).hear "no" = (bindingsQuestion, ⟨.bindings, system⟩) := by
    have other : isWord insertionWord (trim "no".toList) = false := by decide
    simp only [hear, start, other]
    rfl
  simp only [listen, declined, listen_bindings bound, String.append_empty]

/-- Once an insertion orbit is chosen, the words of the next line are its arguments. -/
theorem listen_yes {arguments : List String} {line : String}
    (divided : words line.toList = arguments.map String.toList) (system : System Variable Float) :
    (start system).listen ["yes", line] = (insertionQuestion,
      match readInsertion arguments with
      | .ok supplied => ⟨.closed none, system.add supplied⟩
      | .error error => ⟨.closed (some (.input error)), system⟩) := by
  have chosen : (start system).hear "yes" = (insertionQuestion, ⟨.insertion, system⟩) := by
    have same : isWord insertionWord (trim "yes".toList) = true := by decide
    simp only [hear, start, same]
    rfl
  have same : (words line.toList).map String.ofList = arguments := by
    rw [divided, List.map_map]
    simp
  -- The dialogue is closed by the line, whether its arguments are at fault or not.
  rw [listen, chosen, listen]
  cases read : readInsertion arguments <;>
    simp only [hear, same, read, listen, finish, String.append_empty]

end Dialogue

/-- The outcome with more text in front of its output. -/
def Outcome.behind (outcome : Outcome) (text : String) : Outcome :=
  { outcome with stdout := text ++ outcome.stdout }

/-- What a command writes on the way stands in front of what it concludes. -/
theorem Options.conclude_eq_behind (options : Options) (output : String)
    (reached : Except Failure (System Variable Float)) :
    options.conclude output reached = (options.conclude "" reached).behind output := by
  cases reached <;> simp [Options.conclude, Outcome.behind]

/-- Texts that lead a dialogue where arguments lead show the same, behind what is asked. -/
theorem runCommand_of_listen {arguments : List String} {options : Options}
    (asked : Request.ofWords? arguments = some (.solve options))
    (given : options.interactive = false) {texts : List String} (typed : texts ≠ [])
    (single : ∀ text ∈ texts, text ≠ "" ∧ '\n' ∉ text.toList) {question : String} {last : Dialogue}
    (listened : (Dialogue.start Orbit.system).listen texts = (question, last))
    (same : last.result = options.bound.mapError Failure.input)
    {ending : String} (ends : ending = "" ∨ ending = "\n") (input : List UInt8) :
    runCommand (jsonFlag options.json) (utf8 (String.intercalate "\n" texts ++ ending)) =
      (runCommand arguments input).behind (Dialogue.choiceQuestion ++ question) := by
  have talk := Dialogue.run_of_texts typed single ends Orbit.system
  rw [listened] at talk
  -- Both commands reach the same, but only the dialogue writes something on the way.
  have interactive : Options.interactive ⟨[], none, options.json⟩ = true := rfl
  have read : Options.reach ⟨[], none, options.json⟩
      (utf8 (String.intercalate "\n" texts ++ ending)) =
      (Dialogue.choiceQuestion ++ question, last.result) := by
    rw [Options.reach, interactive, if_pos rfl, talk]
  have unread : options.reach input = ("", last.result) := by
    rw [Options.reach, given, if_neg (by simp), same]
  simp only [runCommand, asked, Request.ofWords?_of_jsonFlag, Options.solve_eq, read, unread]
  rw [Options.conclude_eq_behind]
  -- Of the options, only the one for JSON matters to what is shown.
  cases last.result <;> rfl

/-- Bindings are typed on lines, or given as arguments. -/
theorem runCommand_typed_bindings {json : Bool} {front back : List String}
    (given : front ++ back ≠ [])
    (well : ∀ word ∈ front ++ back, Accepted word ∧ '\n' ∉ word.toList)
    {ending : String} (ends : ending = "" ∨ ending = "\n") (input : List UInt8) :
    let called := runCommand (front ++ jsonFlag json ++ back) input
    let lines := String.intercalate "\n" ("no" :: (front ++ back))
    called.exitCode = 0 ∧ runCommand (jsonFlag json) (utf8 (lines ++ ending)) =
      called.behind (Dialogue.choiceQuestion ++ Dialogue.bindingsQuestion) := by
  intro called lines
  have plain : ∀ word ∈ front ++ back, Request.isOption word = false :=
    fun word member => Request.isOption_of_head (well word member).1.head?_ne
  have asked := Request.ofWords?_of_bindings plain json
  have silent := Options.interactive_of_bindings given json
  obtain ⟨later, bound⟩ : ∃ later, Options.bindAll Orbit.system (front ++ back) = .ok later :=
    Options.exists_bindAll_iff.mpr fun word member => (well word member).1
  -- No binding is empty, so each has its line.
  have single : ∀ text ∈ "no" :: (front ++ back), text ≠ "" ∧ '\n' ∉ text.toList := by
    refine List.forall_mem_cons.mpr ⟨by decide, fun word member => ⟨?_, (well word member).2⟩⟩
    rintro rfl
    obtain ⟨separator, inside, -⟩ := (well "" member).1.separated
    exact absurd inside List.not_mem_nil
  have same : Dialogue.result ⟨.closed none, later⟩ =
      (Options.bound ⟨front ++ back, none, json⟩).mapError Failure.input := by
    rw [Options.bound, bound]
    rfl
  refine ⟨?_, runCommand_of_listen asked silent (by simp) single (Dialogue.listen_no bound) same
    ends input⟩
  simp only [called, runCommand, asked]
  rw [Options.solve_of_bound silent bound]

/-- An insertion orbit is typed on a line, or given as the arguments of its option. -/
theorem runCommand_typed_insertion {json : Bool} {before words after : List String}
    (flag : before ++ after = jsonFlag json) (counted : words.length = 2 ∨ words.length = 3)
    (well : ∀ word ∈ words, word ≠ "" ∧ NoBlank word.toList ∧ word.toList.head? ≠ some '-')
    {line : String} (spaced : Spaced words line.toList) (single : '\n' ∉ line.toList)
    {ending : String} (ends : ending = "" ∨ ending = "\n") (input : List UInt8) :
    let called := runCommand (before ++ "-d" :: words ++ after) input
    let lines := String.intercalate "\n" ["yes", line]
    runCommand (jsonFlag json) (utf8 (lines ++ ending)) =
      called.behind (Dialogue.choiceQuestion ++ Dialogue.insertionQuestion) ∧
    match readInsertion words with
    | .ok _ => called.exitCode = 0
    | .error error => called = ⟨1, "", "error: " ++ error.message ++ "\n"⟩ := by
  intro called lines
  have plain : ∀ word ∈ words, Request.isOption word = false :=
    fun word member => Request.isOption_of_head (well word member).2.2
  have enough : Request.leastArguments ≤ words.length ∧ words.length ≤ Request.mostArguments := by
    simp only [Request.leastArguments, Request.mostArguments]
    omega
  have asked := Request.ofWords?_of_insertion flag enough plain
  have divided : TwoBody.words line.toList = words.map String.toList :=
    words_of_spaced spaced fun word member => ⟨(well word member).1, (well word member).2.1⟩
  -- The line has a word, so it is not empty.
  have nonempty : line ≠ "" := by
    rintro rfl
    have none : words = [] := List.map_eq_nil_iff.mp divided.symm
    simp [none] at counted
  have separate : ∀ text ∈ ["yes", line], text ≠ "" ∧ '\n' ∉ text.toList :=
    List.forall_mem_cons.mpr ⟨by decide, List.forall_mem_singleton.mpr ⟨nonempty, single⟩⟩
  have listened := Dialogue.listen_yes divided Orbit.system
  have bound : Options.bound ⟨[], some words, json⟩ =
      (readInsertion words).map Orbit.system.add := rfl
  constructor
  · refine runCommand_of_listen asked rfl (by simp) separate listened ?_ ends input
    rw [bound]
    cases readInsertion words <;> rfl
  · simp only [called, runCommand, asked]
    cases read : readInsertion words with
    | error error => exact Options.solve_of_fault rfl (by rw [bound, read]; rfl) input
    | ok supplied =>
      dsimp only
      rw [Options.solve_of_bound rfl (by rw [bound, read]; rfl)]

/--
The command line and the dialogue agree.

Whatever can be given as arguments can be typed on lines instead, with the same outcome behind the
questions. For bindings, that is a success. The words of an insertion orbit may be at fault, and
then both fail in the same way. The last line may end in a line feed or not, and white space around
a binding or between the words does not matter.
-/
theorem runCommand_typed (json : Bool) {ending : String} (ends : ending = "" ∨ ending = "\n")
    (input : List UInt8) :
    (∀ front back : List String, front ++ back ≠ [] →
      (∀ word ∈ front ++ back, Accepted word ∧ '\n' ∉ word.toList) →
      let called := runCommand (front ++ jsonFlag json ++ back) input
      let lines := String.intercalate "\n" ("no" :: (front ++ back))
      called.exitCode = 0 ∧ runCommand (jsonFlag json) (utf8 (lines ++ ending)) =
        called.behind (Dialogue.choiceQuestion ++ Dialogue.bindingsQuestion)) ∧
    ∀ (before words after : List String) (line : String), before ++ after = jsonFlag json →
      (words.length = 2 ∨ words.length = 3) →
      (∀ word ∈ words, word ≠ "" ∧ NoBlank word.toList ∧ word.toList.head? ≠ some '-') →
      Spaced words line.toList → '\n' ∉ line.toList →
      let called := runCommand (before ++ "-d" :: words ++ after) input
      let lines := String.intercalate "\n" ["yes", line]
      runCommand (jsonFlag json) (utf8 (lines ++ ending)) =
        called.behind (Dialogue.choiceQuestion ++ Dialogue.insertionQuestion) ∧
      match readInsertion words with
      | .ok _ => called.exitCode = 0
      | .error error => called = ⟨1, "", "error: " ++ error.message ++ "\n"⟩ := by
  constructor
  · intro front back given well
    exact runCommand_typed_bindings given well ends input
  · intro before words after line flag counted well spaced single
    exact runCommand_typed_insertion flag counted well spaced single ends input

/-- Padded bindings with the option for JSON, and an insertion orbit that lacks an operand. -/
theorem runCommand_typed_padded :
    let front := [" Rp = 600000 \r"]
    let back := ["e:0.5", "Rp=7e5"]
    let words := ["geostationary", "1/"]
    let line := " geostationary\t 1/\r"
    (∀ word ∈ front ++ back, Accepted word ∧ '\n' ∉ word.toList) ∧ Spaced words line.toList ∧
    (let called := runCommand (front ++ ["--json"] ++ back) []
     let typed := runCommand ["--json"] (utf8 "no\n Rp = 600000 \r\ne:0.5\nRp=7e5\n")
     called.exitCode = 0 ∧
     typed = called.behind (Dialogue.choiceQuestion ++ Dialogue.bindingsQuestion)) ∧
    runCommand ["--json"] (utf8 "yes\n geostationary\t 1/\r\n") =
      Outcome.behind ⟨1, "", "error: Missing operand in expression \"\"\n"⟩
        (Dialogue.choiceQuestion ++ Dialogue.insertionQuestion) := by
  intro front back words line
  have well : ∀ word ∈ front ++ back, Accepted word ∧ '\n' ∉ word.toList := by decide +kernel
  have parts : line.toList = [' '] ++ "geostationary".toList ++
      (['\t', ' '] ++ "1/".toList ++ ['\r']) := by decide
  have spaced : Spaced words line.toList := by
    have between : ∀ character ∈ ['\t', ' '], isBlank character :=
      List.forall_mem_cons.mpr ⟨by decide, List.forall_mem_singleton.mpr (by decide)⟩
    rw [parts]
    refine .cons (List.forall_mem_singleton.mpr (by decide)) ?_ (.cons between ?_ (.nil ?_))
    · rintro _ ⟨⟩
      decide
    · rintro _ ⟨⟩
      decide
    · exact List.forall_mem_singleton.mpr (by decide)
  have fails : runCommand (["--json"] ++ "-d" :: words ++ []) [] =
      ⟨1, "", "error: Missing operand in expression \"\"\n"⟩ := by decide +kernel
  obtain ⟨bindings, insertion⟩ := runCommand_typed true (Or.inr rfl) []
  obtain ⟨typed, -⟩ :=
    insertion ["--json"] words [] line rfl (by decide) (by decide) spaced (by decide)
  rw [fails] at typed
  exact ⟨well, spaced, bindings front back (by decide) well, typed⟩

end TwoBody
