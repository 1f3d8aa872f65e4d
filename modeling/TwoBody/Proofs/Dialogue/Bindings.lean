import TwoBody.Proofs.Command.Dialogue
import TwoBody.Proofs.Command.Replay
import TwoBody.Proofs.Input.Error
import TwoBody.Proofs.Ratio.Segments

/-!
Bindings in a dialogue: line by line, each is set or its fault is reported.

The input of bindings ends at the first line that is the exit word or not valid UTF-8. The lines
before it decide everything that is written and set.
-/

namespace TwoBody

open Orbit

/-- Lines that are written one after the other. -/
theorem unlines_append (front back : List String) :
    unlines (front ++ back) = unlines front ++ unlines back := by
  simp [unlines]

namespace Dialogue

/-- Whether a line has a text that is the given word, but for white space around it. -/
def spells (word : String) (line : List UInt8) : Bool :=
  (lineText? line).any fun text => isWord word (trim text.toList)

/-- Whether a line has a text, and that is not the given word. -/
def spellsOther (word : String) (line : List UInt8) : Bool :=
  (lineText? line).any fun text => !isWord word (trim text.toList)

/-- A line is not valid UTF-8, is the word or is another text. -/
theorem unreadable_or_spells (word : String) (line : List UInt8) :
    lineText? line = none ∨ spells word line = true ∨ spellsOther word line = true := by
  unfold spells spellsOther
  cases lineText? line with
  | none => exact Or.inl rfl
  | some text => cases isWord word (trim text.toList) <;> simp

/-- What is typed on lines, without white space around it and without the blank lines. -/
def typed (lines : List (List UInt8)) : List String :=
  ((lines.filterMap lineText?).map fun text => String.ofList (trim text.toList)).filter (· ≠ "")

/-- The bindings that are typed, as far as they are well-formed. -/
def accepted (typed : List String) : List (Variable × Float) :=
  typed.filterMap fun text => (readBinding text).toOption

/-- The faults of those that are malformed. -/
def faults (typed : List String) : List InputError :=
  typed.filterMap fun text => Ratio.fault? (readBinding text)

/-- The system once the bindings that are typed are set one after the other. -/
def enter (system : System Variable Float) (typed : List String) : System Variable Float :=
  (accepted typed).foldl (fun system binding => system.set binding.1 binding.2) system

/-- What is written in reply to bindings: each fault, on a line of its own. -/
def reply (typed : List String) : String :=
  unlines ((faults typed).map InputError.message)

/-- What is typed on more lines comes behind what is typed before. -/
theorem typed_append (front back : List (List UInt8)) :
    typed (front ++ back) = typed front ++ typed back := by
  simp [typed]

/-- Bindings that are typed later are set later. -/
theorem enter_append (system : System Variable Float) (front back : List String) :
    enter system (front ++ back) = enter (enter system front) back := by
  simp [enter, accepted]

/-- Faults are reported in the order of the bindings. -/
theorem reply_append (front back : List String) :
    reply (front ++ back) = reply front ++ reply back := by
  simp [reply, faults, unlines_append]

/-- A well-formed binding is set, and nothing is reported. -/
theorem accepted_cons_ok {text : String} {binding : Variable × Float}
    (read : readBinding text = .ok binding) (rest : List String) :
    accepted (text :: rest) = binding :: accepted rest ∧ faults (text :: rest) = faults rest :=
  ⟨List.filterMap_cons_some (by rw [read]; rfl), List.filterMap_cons_none (by rw [read]; rfl)⟩

/-- The fault of a malformed binding is reported, and nothing is set. -/
theorem accepted_cons_error {text : String} {fault : InputError}
    (read : readBinding text = .error fault) (rest : List String) :
    accepted (text :: rest) = accepted rest ∧ faults (text :: rest) = fault :: faults rest :=
  ⟨List.filterMap_cons_none (by rw [read]; rfl), List.filterMap_cons_some (by rw [read]; rfl)⟩

/-- Each binding is set or its fault is reported. -/
theorem length_accepted_add_faults (typed : List String) :
    (accepted typed).length + (faults typed).length = typed.length := by
  induction typed with
  | nil => rfl
  | cons text rest ih =>
    cases read : readBinding text with
    | ok binding =>
      obtain ⟨set, unreported⟩ := accepted_cons_ok read rest
      rw [set, unreported, List.length_cons, List.length_cons]
      omega
    | error fault =>
      obtain ⟨unset, reported⟩ := accepted_cons_error read rest
      rw [unset, reported, List.length_cons, List.length_cons]
      omega

/-- A line of bindings is heard, and leaves more of them to come. -/
theorem receive_binding {line : List UInt8} (more : spellsOther exitWord line = true)
    (system : System Variable Float) :
    receive ⟨.bindings, system⟩ line =
      (reply (typed [line]), ⟨.bindings, enter system (typed [line])⟩) := by
  obtain ⟨text, read, other⟩ := (Option.any_eq_true ..).mp more
  have unlike : isWord exitWord (trim text.toList) = false := by simpa using other
  simp only [receive, read, hear, unlike]
  by_cases blank : trim text.toList = []
  · have none : typed [line] = [] := by simp [typed, read, blank]
    rw [if_neg Bool.false_ne_true, if_pos blank, none]
    rfl
  · have single : typed [line] = [String.ofList (trim text.toList)] := by simp [typed, read, blank]
    rw [if_neg Bool.false_ne_true, if_neg blank, single]
    cases given : readBinding (String.ofList (trim text.toList)) with
    | ok binding =>
      obtain ⟨set, unreported⟩ := accepted_cons_ok given []
      rw [reply, unreported, enter, set]
      rfl
    | error fault =>
      obtain ⟨unset, reported⟩ := accepted_cons_error given []
      rw [reply, reported, enter, unset]
      simp [unlines, accepted, faults]

/-- The failure of the line that ends the input of bindings, unless that is the exit word. -/
def interruption? (lines : List (List UInt8)) : Option Failure :=
  (lines.find? fun line => !spellsOther exitWord line).bind fun line =>
    if (lineText? line).isNone then some .invalidUtf8 else none

/-- A closed dialogue listens no more, and says nothing. -/
theorem converse_closed (failure : Option Failure) (system : System Variable Float)
    (lines : List (List UInt8)) :
    converse ⟨.closed failure, system⟩ lines = ("", ⟨.closed failure, system⟩) := by
  induction lines with
  | nil => rfl
  | cons line rest ih => simp [converse, receive, ih]

/-- The first line that is the exit word or not valid UTF-8 ends the input of bindings. -/
theorem interruption?_cons_of_last {line : List UInt8} (last : spellsOther exitWord line = false)
    (rest : List (List UInt8)) :
    interruption? (line :: rest) =
      if (lineText? line).isNone then some .invalidUtf8 else none := by
  rw [interruption?, List.find?_cons_of_pos (by simp [last])]
  rfl

/-- Another line does not end it. -/
theorem interruption?_cons_of_more {line : List UInt8} (more : spellsOther exitWord line = true)
    (rest : List (List UInt8)) : interruption? (line :: rest) = interruption? rest := by
  rw [interruption?, List.find?_cons_of_neg (by simp [more]), interruption?]

/-- The line that ends the input of bindings is not replied to. -/
theorem receive_last {line : List UInt8} (last : spellsOther exitWord line = false)
    (system : System Variable Float) (rest : List (List UInt8)) :
    receive ⟨.bindings, system⟩ line = ("", ⟨.closed (interruption? (line :: rest)), system⟩) := by
  rw [interruption?_cons_of_last last]
  rcases unreadable_or_spells exitWord line with unreadable | exits | other
  · simp [receive, unreadable]
  · obtain ⟨text, read, same⟩ := (Option.any_eq_true ..).mp exits
    simp [receive, hear, read, same]
  · exact absurd (other.symm.trans last) (by decide)

/-- The lines before the one that ends the input decide what is written and what is set. -/
theorem converse_bindings (system : System Variable Float) (lines : List (List UInt8)) :
    converse ⟨.bindings, system⟩ lines =
      (reply (typed (lines.takeWhile (spellsOther exitWord))),
        ⟨.closed (interruption? lines),
          enter system (typed (lines.takeWhile (spellsOther exitWord)))⟩) := by
  -- The induction is on the lines still to come.
  induction lines generalizing system with
  | nil => rfl
  | cons line rest ih =>
    cases more : spellsOther exitWord line with
    | true =>
      have first := typed_append [line] (rest.takeWhile (spellsOther exitWord))
      rw [List.singleton_append] at first
      rw [converse, receive_binding more, List.takeWhile_cons_of_pos more,
        interruption?_cons_of_more more, first, reply_append, enter_append]
      simp only [ih]
    | false =>
      rw [converse, receive_last more system rest, List.takeWhile_cons_of_neg (by simp [more])]
      simp only [converse_closed]
      rfl

/-- Bindings follow a first line that does not choose an insertion orbit. -/
theorem converse_declined {first : List UInt8} (declined : spellsOther insertionWord first = true)
    (system : System Variable Float) (rest : List (List UInt8)) :
    converse (start system) (first :: rest) =
      (bindingsQuestion ++ reply (typed (rest.takeWhile (spellsOther exitWord))),
        ⟨.closed (interruption? rest),
          enter system (typed (rest.takeWhile (spellsOther exitWord)))⟩) := by
  obtain ⟨text, read, other⟩ := (Option.any_eq_true ..).mp declined
  have unlike : isWord insertionWord (trim text.toList) = false := by simpa using other
  have asked : receive (start system) first = (bindingsQuestion, ⟨.bindings, system⟩) := by
    simp only [receive, start, read, hear, unlike]
    rfl
  rw [converse, asked]
  simp only [converse_bindings]

/-- Where there is no first line either, the question for bindings stays without an answer. -/
theorem converse_start_nil (system : System Variable Float) :
    converse (start system) [] = (bindingsQuestion, ⟨.closed none, system⟩) := by
  have unlike : isWord insertionWord (trim "".toList) = false := by decide
  simp only [converse, finish, start, hear, unlike]
  rfl

/-- A line that is valid UTF-8 is the word or another text, but not both. -/
theorem spellsOther_of_readable {line : List UInt8} (readable : (lineText? line).isSome)
    (word : String) : spellsOther word line = !spells word line := by
  obtain ⟨text, read⟩ := Option.isSome_iff_exists.mp readable
  simp [spells, spellsOther, read]

/-- Where all lines are valid UTF-8, the bindings go on up to the exit word. -/
theorem takeWhile_of_readable {lines : List (List UInt8)}
    (readable : ∀ line ∈ lines, (lineText? line).isSome) :
    lines.takeWhile (spellsOther exitWord) = lines.takeWhile fun line => !spells exitWord line := by
  induction lines with
  | nil => rfl
  | cons line rest ih =>
    obtain ⟨first, others⟩ := List.forall_mem_cons.mp readable
    rw [List.takeWhile_cons, List.takeWhile_cons, spellsOther_of_readable first, ih others]

/-- Where all lines are valid UTF-8, the bindings end without a failure. -/
theorem interruption?_of_readable {lines : List (List UInt8)}
    (readable : ∀ line ∈ lines, (lineText? line).isSome) : interruption? lines = none := by
  refine Option.bind_eq_none_iff.mpr fun line found => ?_
  have first := readable line (List.mem_of_find?_eq_some found)
  simp [Option.isSome_iff_ne_none.mp first]

/--
A dialogue over bindings is a fold over its lines.

The lines behind the first one count, up to the exit word. What is typed on them is trimmed, and
blank lines are left out. Each well-formed binding is set, and the fault of each malformed one is
reported on a line of its own, in order.
-/
theorem run_bindings (system : System Variable Float) {input : List UInt8}
    (readable : ∀ line ∈ lines input, (lineText? line).isSome)
    (declined : ∀ first ∈ (lines input).head?, spells insertionWord first = false) :
    let heard := typed ((lines input).tail.takeWhile fun line => !spells exitWord line)
    let ended := run system input
    ended.1 = choiceQuestion ++ bindingsQuestion ++
      unlines ((faults heard).map InputError.message) ∧
    ended.2.result = .ok
      ((accepted heard).foldl (fun system binding => system.set binding.1 binding.2) system) ∧
    (accepted heard).length + (faults heard).length = heard.length ∧
    ∀ fault ∈ faults heard, '\n' ∉ fault.message.toList := by
  intro heard ended
  have replied : ended =
      (choiceQuestion ++ bindingsQuestion ++ reply heard, ⟨.closed none, enter system heard⟩) := by
    simp only [ended, heard, run, String.append_assoc]
    cases split : lines input with
    | nil =>
      have silent : bindingsQuestion ++ reply (typed []) = bindingsQuestion := String.append_empty
      rw [converse_start_nil, List.tail_nil, List.takeWhile_nil, silent]
      rfl
    | cons first rest =>
      rw [split] at readable declined
      obtain ⟨valid, others⟩ := List.forall_mem_cons.mp readable
      have other : spellsOther insertionWord first = true := by
        rw [spellsOther_of_readable valid, declined first rfl]
        rfl
      rw [converse_declined other, takeWhile_of_readable others, interruption?_of_readable others,
        List.tail_cons]
  rw [replied]
  exact ⟨rfl, rfl, length_accepted_add_faults heard,
    fun fault _ => fault.newline_not_mem_message⟩

/--
Lines with and without white space, one that is blank, two that are malformed and one behind the
exit word.
-/
theorem run_bindings_padded :
    let input := utf8 "nO \n\nRp600000\r\n Rp = 600000\t\n\u3000e:far\n ExIt\r\nGM=1"
    let heard := ["Rp600000", "Rp = 600000", "e:far"]
    let ended := run Orbit.system input
    (∀ line ∈ lines input, (lineText? line).isSome) ∧
    (∀ first ∈ (lines input).head?, spells insertionWord first = false) ∧
    typed ((lines input).tail.takeWhile fun line => !spells exitWord line) = heard ∧
    ended.1 = choiceQuestion ++ bindingsQuestion ++
      unlines ["Expected name=value or name:value, got \"Rp600000\"", "Invalid number \"far\""] ∧
    ended.2.result = .ok (Orbit.system.set .periRadius 600000) := by
  intro input heard ended
  have readable : ∀ line ∈ lines input, (lineText? line).isSome := by decide +kernel
  have declined : ∀ first ∈ (lines input).head?, spells insertionWord first = false := by
    decide +kernel
  have listed : typed ((lines input).tail.takeWhile fun line => !spells exitWord line) = heard := by
    decide +kernel
  have faulty : (faults heard).map InputError.message =
      ["Expected name=value or name:value, got \"Rp600000\"", "Invalid number \"far\""] := by
    decide +kernel
  have well : accepted heard = [(.periRadius, 600000)] := by decide +kernel
  obtain ⟨written, reached, -, -⟩ := run_bindings Orbit.system readable declined
  rw [listed, faulty] at written
  rw [listed, well] at reached
  exact ⟨readable, declined, listed, written, reached⟩

end Dialogue

end TwoBody
