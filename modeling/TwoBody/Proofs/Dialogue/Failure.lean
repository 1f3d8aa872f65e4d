import TwoBody.Proofs.Dialogue.Bindings

/-!
Failures of a dialogue, and what it leaves unread.

There are few ways in which a dialogue can end, and the line where it stops decides between them.
Only a line that it reads can make it fail, and what comes behind that one is never looked at.
-/

namespace TwoBody

open Orbit

namespace Dialogue

/-- The text that describes an insertion orbit; a line that is absent is like an empty one. -/
def description? : List (List UInt8) → Option String
  | [] => some ""
  | line :: _ => lineText? line

/-- Reads the words of a text as the arguments of an insertion orbit. -/
def readDescription (text : String) : Except InputError (List (Variable × Float)) :=
  readInsertion ((words text.toList).map String.ofList)

/-- A line that is the word has a text, and not another one. -/
theorem readable_of_spells {word : String} {line : List UInt8} (same : spells word line = true) :
    lineText? line ≠ none ∧ spellsOther word line = false := by
  obtain ⟨text, read, -⟩ := (Option.any_eq_true ..).mp same
  exact ⟨by simp [read], by rw [spellsOther_of_readable (by simp [read]), same]; rfl⟩

/-- A line that is another text than the word is not the word. -/
theorem readable_of_spellsOther {word : String} {line : List UInt8}
    (other : spellsOther word line = true) : lineText? line ≠ none ∧ spells word line = false := by
  obtain ⟨text, read, -⟩ := (Option.any_eq_true ..).mp other
  have unlike : spellsOther word line = !spells word line :=
    spellsOther_of_readable (by simp [read]) word
  exact ⟨by simp [read], by simpa [other] using unlike⟩

/-- A first line that is not valid UTF-8 ends the dialogue. -/
theorem converse_unreadable {first : List UInt8} (unreadable : lineText? first = none)
    (system : System Variable Float) (rest : List (List UInt8)) :
    converse (start system) (first :: rest) = ("", ⟨.closed (some .invalidUtf8), system⟩) := by
  have failed : receive (start system) first = ("", ⟨.closed (some .invalidUtf8), system⟩) := by
    simp only [receive, start, unreadable]
  simp only [converse, failed, converse_closed]
  rfl

/-- Once an insertion orbit is chosen, the next line decides. -/
theorem converse_chosen {first : List UInt8} (chosen : spells insertionWord first = true)
    (system : System Variable Float) (rest : List (List UInt8)) :
    converse (start system) (first :: rest) = (insertionQuestion,
      match description? rest with
      | none => ⟨.closed (some .invalidUtf8), system⟩
      | some text =>
        match readDescription text with
        | .ok supplied => ⟨.closed none, system.add supplied⟩
        | .error error => ⟨.closed (some (.input error)), system⟩) := by
  obtain ⟨text, read, same⟩ := (Option.any_eq_true ..).mp chosen
  have asked : receive (start system) first = (insertionQuestion, ⟨.insertion, system⟩) := by
    simp only [receive, start, read, hear, same]
    rfl
  rw [converse, asked]
  cases rest with
  | nil =>
    simp only [converse, finish, hear, description?, readDescription]
    cases readInsertion ((words "".toList).map String.ofList) <;> simp only [String.append_empty]
  | cons second rest =>
    simp only [converse, receive, description?, readDescription]
    cases lineText? second with
    | none => simp only [converse_closed, String.append_empty]
    | some text =>
      simp only [hear]
      cases readInsertion ((words text.toList).map String.ofList) <;>
        simp only [converse_closed, String.append_empty]

/-- How a dialogue over these lines ends: what is written, and the dialogue that is left. -/
inductive Ends (system : System Variable Float) : List (List UInt8) → String × Dialogue → Prop where
  /-- Without any line, nothing is chosen and nothing bound. -/
  | silent : Ends system [] (bindingsQuestion, ⟨.closed none, system⟩)
  /-- The line that chooses is not valid UTF-8. -/
  | unreadable {first : List UInt8} {rest : List (List UInt8)} (invalid : lineText? first = none) :
    Ends system (first :: rest) ("", ⟨.closed (some .invalidUtf8), system⟩)
  /-- The line that describes an insertion orbit is not valid UTF-8. -/
  | undescribed {first second : List UInt8} {rest : List (List UInt8)}
    (chosen : spells insertionWord first = true) (invalid : lineText? second = none) :
    Ends system (first :: second :: rest)
      (insertionQuestion, ⟨.closed (some .invalidUtf8), system⟩)
  /-- The description of an insertion orbit is malformed. -/
  | rejected {first : List UInt8} {rest : List (List UInt8)} {text : String} {error : InputError}
    (chosen : spells insertionWord first = true) (described : description? rest = some text)
    (malformed : readDescription text = .error error) :
    Ends system (first :: rest) (insertionQuestion, ⟨.closed (some (.input error)), system⟩)
  /-- An insertion orbit is added. -/
  | inserted {first : List UInt8} {rest : List (List UInt8)} {text : String}
    {supplied : List (Variable × Float)} (chosen : spells insertionWord first = true)
    (described : description? rest = some text) (wellFormed : readDescription text = .ok supplied) :
    Ends system (first :: rest) (insertionQuestion, ⟨.closed none, system.add supplied⟩)
  /-- Bindings are set, up to the line that ends them. -/
  | bindings {first : List UInt8} {rest : List (List UInt8)}
    (declined : spellsOther insertionWord first = true) :
    Ends system (first :: rest)
      (bindingsQuestion ++ reply (typed (rest.takeWhile (spellsOther exitWord))),
        ⟨.closed (interruption? rest),
          enter system (typed (rest.takeWhile (spellsOther exitWord)))⟩)

/-- Every dialogue ends in one of these ways. -/
theorem ends_converse (system : System Variable Float) (lines : List (List UInt8)) :
    Ends system lines (converse (start system) lines) := by
  cases lines with
  | nil => exact converse_start_nil system ▸ .silent
  | cons first rest =>
    rcases unreadable_or_spells insertionWord first with invalid | chosen | declined
    · exact converse_unreadable invalid system rest ▸ .unreadable invalid
    · rw [converse_chosen chosen]
      cases described : description? rest with
      | none =>
        -- Only a line that is there can lack a text.
        cases rest with
        | nil => nomatch described
        | cons second rest => exact .undescribed chosen described
      | some text =>
        cases read : readDescription text with
        | error error => simpa only [read] using .rejected chosen described read
        | ok supplied => simpa only [read] using .inserted chosen described read
    · exact converse_declined declined system rest ▸ .bindings declined

/-- The bindings end before the line that ends them. -/
theorem takeWhile_of_stops {before : List (List UInt8)} {last : List UInt8}
    (more : ∀ line ∈ before, spellsOther exitWord line = true)
    (closing : spellsOther exitWord last = false) (after : List (List UInt8)) :
    (before ++ last :: after).takeWhile (spellsOther exitWord) = before := by
  rw [List.takeWhile_append_of_pos more, List.takeWhile_cons_of_neg (by simp [closing]),
    List.append_nil]

/-- Which failure ends the bindings depends on the line that ends them only. -/
theorem interruption?_of_stops {before : List (List UInt8)} {last : List UInt8}
    (more : ∀ line ∈ before, spellsOther exitWord line = true)
    (closing : spellsOther exitWord last = false) (after : List (List UInt8)) :
    interruption? (before ++ last :: after) =
      if (lineText? last).isNone then some .invalidUtf8 else none := by
  induction before with
  | nil => rw [List.nil_append, interruption?_cons_of_last closing]
  | cons line rest ih =>
    obtain ⟨first, others⟩ := List.forall_mem_cons.mp more
    rw [List.cons_append, interruption?_cons_of_more first, ih others]

/-- The input of bindings fails at a line that is not valid UTF-8, and at no other. -/
theorem exists_of_interruption? {lines : List (List UInt8)} {failure : Failure}
    (stopped : interruption? lines = some failure) :
    failure = .invalidUtf8 ∧ ∃ before line after, lines = before ++ line :: after ∧
      lineText? line = none ∧ ∀ other ∈ before, spellsOther exitWord other = true := by
  obtain ⟨line, found, invalid⟩ := Option.bind_eq_some_iff.mp stopped
  obtain ⟨last, before, after, split, more⟩ := List.find?_eq_some_iff_append.mp found
  cases read : lineText? line with
  | none =>
    simp only [read, Option.isNone_none, if_true, Option.some.injEq] at invalid
    exact ⟨invalid.symm, before, line, after, split, read, by simpa using more⟩
  | some text => simp [read] at invalid

/-- Without the exit word before it, a line that is not valid UTF-8 is reached, or one before it. -/
theorem interruption?_of_unreadable {before : List (List UInt8)}
    (inside : ∀ other ∈ before, spells exitWord other = false) {line : List UInt8}
    (unreadable : lineText? line = none) (after : List (List UInt8)) :
    interruption? (before ++ line :: after) = some .invalidUtf8 := by
  induction before with
  | nil =>
    have last : spellsOther exitWord line = false := by simp [spellsOther, unreadable]
    rw [List.nil_append, interruption?_cons_of_last last, unreadable]
    rfl
  | cons other rest ih =>
    obtain ⟨first, others⟩ := List.forall_mem_cons.mp inside
    rcases unreadable_or_spells exitWord other with none | exits | more
    · have last : spellsOther exitWord other = false := by simp [spellsOther, none]
      rw [List.cons_append, interruption?_cons_of_last last, none]
      rfl
    · exact absurd (exits.symm.trans first) (by decide)
    · rw [List.cons_append, interruption?_cons_of_more more]
      exact ih others

/-- A dialogue ends with the failure that has closed it, or with its system. -/
theorem result_eq_error_iff {dialogue : Dialogue} {failure : Failure} :
    dialogue.result = .error failure ↔ dialogue.failure? = some failure := by
  unfold result
  cases dialogue.failure? <;> simp

/-- Among these lines is one that is not valid UTF-8 and that a dialogue comes to. -/
inductive ReachesInvalid : List (List UInt8) → Prop where
  /-- The first line is always read. -/
  | choice {first : List UInt8} {rest : List (List UInt8)} (invalid : lineText? first = none) :
    ReachesInvalid (first :: rest)
  /-- The second line is read where an insertion orbit is chosen. -/
  | insertion {first second : List UInt8} {rest : List (List UInt8)}
    (chosen : spells insertionWord first = true) (invalid : lineText? second = none) :
    ReachesInvalid (first :: second :: rest)
  /-- Otherwise lines are read up to the exit word. -/
  | bindings {first line : List UInt8} {before after : List (List UInt8)}
    (declined : spellsOther insertionWord first = true)
    (inside : ∀ other ∈ before, spells exitWord other = false) (invalid : lineText? line = none) :
    ReachesInvalid (first :: (before ++ line :: after))

/-- A dialogue fails for lack of valid UTF-8 exactly if it reads such a line. -/
theorem invalidUtf8_iff (system : System Variable Float) (lines : List (List UInt8)) :
    (converse (start system) lines).2.failure? = some .invalidUtf8 ↔ ReachesInvalid lines := by
  constructor
  · intro failed
    have ends := ends_converse system lines
    generalize converse (start system) lines = ended at failed ends
    cases ends with
    | silent => nomatch failed
    | unreadable invalid => exact .choice invalid
    | undescribed chosen invalid => exact .insertion chosen invalid
    | rejected => nomatch failed
    | inserted => nomatch failed
    | bindings declined =>
      obtain ⟨-, before, line, after, rfl, invalid, more⟩ := exists_of_interruption? failed
      have unspelt : ∀ other ∈ before, spells exitWord other = false :=
        fun other inside => (readable_of_spellsOther (more other inside)).2
      exact .bindings declined unspelt invalid
  · rintro (invalid | ⟨chosen, invalid⟩ | ⟨declined, inside, invalid⟩)
    · rw [converse_unreadable invalid]
      rfl
    · rw [converse_chosen chosen, description?, invalid]
      rfl
    · rw [converse_declined declined]
      exact interruption?_of_unreadable inside invalid _

/-- A dialogue fails for its input exactly if that is to describe an insertion orbit. -/
theorem input_iff (system : System Variable Float) (lines : List (List UInt8))
    (error : InputError) :
    (converse (start system) lines).2.failure? = some (.input error) ↔
      ∃ first rest text, lines = first :: rest ∧ spells insertionWord first = true ∧
        description? rest = some text ∧ readDescription text = .error error := by
  constructor
  · intro failed
    have ends := ends_converse system lines
    generalize converse (start system) lines = ended at failed ends
    cases ends with
    | silent => nomatch failed
    | unreadable => nomatch failed
    | undescribed => nomatch failed
    | rejected chosen described malformed =>
      obtain rfl := Failure.input.inj (Option.some.inj failed)
      exact ⟨_, _, _, rfl, chosen, described, malformed⟩
    | inserted => nomatch failed
    | bindings => nomatch (exists_of_interruption? failed).1
  · rintro ⟨first, rest, text, rfl, chosen, described, rejected⟩
    simp [converse_chosen chosen, described, rejected, failure?]

/-- A dialogue that fails has set the bindings before the line at fault, and nothing else. -/
theorem system_of_failure {system : System Variable Float} {lines : List (List UInt8)}
    {failure : Failure} (failed : (converse (start system) lines).2.failure? = some failure) :
    ∃ first rest, lines = first :: rest ∧
      ((lineText? first = none ∨ spells insertionWord first = true) ∧
          (converse (start system) lines).2.system = system ∨
        spellsOther insertionWord first = true ∧ ∃ before line after,
          rest = before ++ line :: after ∧ lineText? line = none ∧
            (∀ other ∈ before, spellsOther exitWord other = true) ∧
            (converse (start system) lines).2.system = enter system (typed before)) := by
  have ends := ends_converse system lines
  generalize converse (start system) lines = ended at failed ends
  cases ends with
  | silent => nomatch failed
  | unreadable invalid => exact ⟨_, _, rfl, Or.inl ⟨Or.inl invalid, rfl⟩⟩
  | undescribed chosen => exact ⟨_, _, rfl, Or.inl ⟨Or.inr chosen, rfl⟩⟩
  | rejected chosen => exact ⟨_, _, rfl, Or.inl ⟨Or.inr chosen, rfl⟩⟩
  | inserted => nomatch failed
  | bindings declined =>
    obtain ⟨-, before, line, after, rfl, invalid, more⟩ := exists_of_interruption? failed
    have closing : spellsOther exitWord line = false := by simp [spellsOther, invalid]
    exact ⟨_, _, rfl, Or.inr ⟨declined, before, line, after, rfl, invalid, more,
      by rw [takeWhile_of_stops more closing]⟩⟩

/-- A dialogue stops at the last of these lines, whatever comes behind it. -/
inductive Stops : List (List UInt8) → Prop where
  /-- The first line is not valid UTF-8. -/
  | choice {first : List UInt8} (unreadable : lineText? first = none) : Stops [first]
  /-- The second line describes an insertion orbit, or fails to do so. -/
  | insertion {first second : List UInt8} (chosen : spells insertionWord first = true) :
    Stops [first, second]
  /-- A line of bindings is the exit word, or is not valid UTF-8. -/
  | bindings {first last : List UInt8} {before : List (List UInt8)}
    (declined : spellsOther insertionWord first = true)
    (more : ∀ line ∈ before, spellsOther exitWord line = true)
    (ends : spells exitWord last = true ∨ lineText? last = none) :
    Stops (first :: (before ++ [last]))

/-- Lines behind the one where a dialogue stops are not read. -/
theorem converse_of_stops {read : List (List UInt8)} (stops : Stops read)
    (system : System Variable Float) (unread : List (List UInt8)) :
    converse (start system) (read ++ unread) = converse (start system) read := by
  cases stops with
  | choice unreadable =>
    rw [List.singleton_append, converse_unreadable unreadable, converse_unreadable unreadable]
  | insertion chosen =>
    simp only [List.cons_append, converse_chosen chosen, description?]
  | @bindings first last before declined more ends =>
    have closing : spellsOther exitWord last = false := by
      rcases ends with exits | unreadable
      · exact (readable_of_spells exits).2
      · simp [spellsOther, unreadable]
    have read := takeWhile_of_stops more closing
    have stopped := interruption?_of_stops more closing
    rw [List.cons_append, converse_declined declined, converse_declined declined,
      List.append_assoc, List.singleton_append, read unread, read [], stopped unread, stopped []]

/--
When a dialogue fails, what that leaves of its system, and which bytes it does not look at.

It fails for lack of valid UTF-8 exactly if it comes to such a line, and for its input exactly if
that chooses an insertion orbit and does not describe one. The system then stays as it was, but for
the bindings before the line at fault. Nothing depends on bytes behind the line where it stops.
-/
theorem run_failures (system : System Variable Float) (input : List UInt8) :
    let ended := run system input
    (ended.2.result = .error .invalidUtf8 ↔ ReachesInvalid (lines input)) ∧
    (∀ error, ended.2.result = .error (.input error) ↔ ∃ first rest text,
      lines input = first :: rest ∧ spells insertionWord first = true ∧
        description? rest = some text ∧ readDescription text = .error error) ∧
    (∀ failure, ended.2.result = .error failure → ∃ first rest, lines input = first :: rest ∧
      ((lineText? first = none ∨ spells insertionWord first = true) ∧
          ended.2.system = system ∨
        spellsOther insertionWord first = true ∧ ∃ before line after,
          rest = before ++ line :: after ∧ lineText? line = none ∧
            (∀ other ∈ before, spellsOther exitWord other = true) ∧
            ended.2.system = enter system (typed before))) ∧
    (input.getLast? = some lineFeed → Stops (lines input) →
      ∀ unread, run system (input ++ unread) = ended) := by
  intro ended
  have outcome : ended.2 = (converse (start system) (lines input)).2 := rfl
  simp only [result_eq_error_iff, outcome]
  refine ⟨invalidUtf8_iff system _, input_iff system _, fun _ failed => system_of_failure failed,
    fun closed stops unread => ?_⟩
  -- What is appended to whole lines is appended as lines.
  simp only [ended, run, lines_append closed, converse_of_stops stops]

/--
A line that is not valid UTF-8 behind two of bindings, an insertion orbit without its second
argument, and bytes behind the exit word.
-/
theorem run_failures_unread :
    let broken := utf8 "no\nRp=1\nx\n" ++ [255, lineFeed]
    let short := utf8 "YES\n600000\n"
    let left := utf8 "no\n exit\n"
    ((run Orbit.system broken).2.result = .error .invalidUtf8 ∧
      (run Orbit.system broken).2.system = Orbit.system.set .periRadius 1) ∧
    ((run Orbit.system short).2.result = .error (.input (.insertionArguments 1)) ∧
      (run Orbit.system short).2.system = Orbit.system) ∧
    ∀ unread, run Orbit.system (left ++ unread) = run Orbit.system left := by
  intro broken short left
  have brokenLines : lines broken =
      utf8 "no\n" :: ([utf8 "Rp=1\n", utf8 "x\n"] ++ [255, lineFeed] :: []) := by decide +kernel
  have shortLines : lines short = [utf8 "YES\n", utf8 "600000\n"] := by decide +kernel
  have leftLines : lines left = utf8 "no\n" :: ([] ++ [utf8 " exit\n"]) := by decide +kernel
  have declined : spellsOther insertionWord (utf8 "no\n") = true := by decide +kernel
  have chosen : spells insertionWord (utf8 "YES\n") = true := by decide +kernel
  have invalid : lineText? [255, lineFeed] = none := by decide +kernel
  refine ⟨?_, ?_, ?_⟩
  · obtain ⟨fails, -, leaves, -⟩ := run_failures Orbit.system broken
    have failed := fails.mpr (brokenLines ▸ .bindings declined (by decide +kernel) invalid)
    refine ⟨failed, ?_⟩
    obtain ⟨first, rest, split, cause⟩ := leaves _ failed
    obtain ⟨rfl, rfl⟩ := List.cons.inj (brokenLines.symm.trans split)
    obtain ⟨early, -⟩ | ⟨-, before, line, after, behind, unreadable, more, entered⟩ := cause
    · exact absurd early (by decide +kernel)
    · have closing : spellsOther exitWord line = false := by simp [spellsOther, unreadable]
      have read : [utf8 "Rp=1\n", utf8 "x\n"] = before := by
        rw [← takeWhile_of_stops more closing after, ← behind]
        decide +kernel
      have well : accepted (typed before) = [(.periRadius, 1)] := read ▸ by decide +kernel
      rw [entered, enter, well]
      rfl
  · obtain ⟨-, fails, leaves, -⟩ := run_failures Orbit.system short
    have failed := (fails (.insertionArguments 1)).mpr
      ⟨_, _, "600000", shortLines, chosen, by decide +kernel, by decide +kernel⟩
    refine ⟨failed, ?_⟩
    obtain ⟨first, rest, split, ⟨-, kept⟩ | ⟨other, -⟩⟩ := leaves _ failed
    · exact kept
    · obtain ⟨rfl, -⟩ := List.cons.inj (shortLines.symm.trans split)
      exact absurd other (by decide +kernel)
  · exact (run_failures Orbit.system left).2.2.2 (by decide +kernel)
      (leftLines ▸ .bindings declined nofun (Or.inl (by decide +kernel)))

end Dialogue

end TwoBody
