import TwoBody.Proofs.Dialogue.Failure

/-!
Supplies: the bindings that a command takes from its arguments or its dialogue, and what it prints.

Whatever is derived on the way, the system that a command reaches is left by a run of these.
-/

namespace TwoBody

open Orbit Std

namespace Orbit

/-- The orbit formulas only yield values for variables that have none. -/
theorem additive_of_mem_formulas : ∀ formula ∈ formulas, formula.Additive :=
  List.forall_mem_map.mpr fun table _ => table.additive

/-- After a run of the orbit system a supplied variable has the value of its last supply. -/
theorem getElem?_run_of_lastSupplied {additions : List (List (Variable × Float))}
    {symbol : Variable} {value : Float} (last : LastSupplied additions symbol value) :
    (system.run additions).known[symbol]? = some value :=
  System.getElem?_run_of_lastSupplied additive_of_mem_formulas last

end Orbit

namespace Dialogue

/-- The additions that a dialogue over these lines makes. -/
def supplies : List (List UInt8) → List (List (Variable × Float))
  | [] => []
  | first :: rest =>
    if spells insertionWord first then
      ((description? rest).bind fun text => (readDescription text).toOption).toList
    else (accepted (typed (rest.takeWhile (spellsOther exitWord)))).map fun binding => [binding]

/-- Bindings that are set one after the other are a run of additions. -/
theorem enter_eq_run (system : System Variable Float) (typed : List String) :
    enter system typed = system.run ((accepted typed).map fun binding => [binding]) := by
  rw [enter, System.run, List.foldl_map]
  rfl

/-- Where all texts are well-formed bindings, these are the accepted ones. -/
theorem accepted_of_map {texts : List String} {bindings : List (Variable × Float)}
    (read : texts.map readBinding = bindings.map .ok) : accepted texts = bindings := by
  induction texts generalizing bindings with
  | nil => exact (List.map_eq_nil_iff.mp read.symm).symm
  | cons text rest ih =>
    cases bindings with
    | nil => nomatch read
    | cons binding others =>
      rw [List.map_cons, List.map_cons] at read
      obtain ⟨first, later⟩ := List.cons.inj read
      rw [(accepted_cons_ok first rest).1, ih later]

/-- A dialogue ends with its system if no failure has closed it. -/
theorem result_eq_ok_iff {dialogue : Dialogue} {system : System Variable Float} :
    dialogue.result = .ok system ↔ dialogue.failure? = none ∧ dialogue.system = system := by
  unfold result
  cases dialogue.failure? <;> simp

/-- A dialogue that does not fail is a run of its additions. -/
theorem system_of_converse {system : System Variable Float} {lines : List (List UInt8)}
    (ends : (converse (start system) lines).2.failure? = none) :
    (converse (start system) lines).2.system = system.run (supplies lines) := by
  have ended := ends_converse system lines
  generalize converse (start system) lines = last at ends ended
  cases ended with
  | silent => rfl
  | unreadable => nomatch ends
  | undescribed => nomatch ends
  | rejected => nomatch ends
  | inserted chosen described wellFormed =>
    rw [supplies, if_pos chosen, described, Option.bind_some, wellFormed]
    rfl
  | bindings declined =>
    rw [supplies, if_neg (by simp [(readable_of_spellsOther declined).2])]
    exact enter_eq_run system _

end Dialogue

namespace Options

/-- The additions that a command makes to its system, unless it fails. -/
def supplies (options : Options) (input : List UInt8) : List (List (Variable × Float)) :=
  match options.insertion with
  | some words => ((readInsertion words).toOption).toList
  | none =>
    if options.bindings = [] then Dialogue.supplies (lines input)
    else (Dialogue.accepted options.bindings).map fun binding => [binding]

/-- Arguments that are well-formed lead to the system that their additions lead to. -/
theorem system_of_bound {options : Options} (asked : options.interactive = false)
    {system : System Variable Float} (bound : options.bound = .ok system) (input : List UInt8) :
    system = Orbit.system.run (options.supplies input) := by
  cases given : options.insertion with
  | some words =>
    rw [Options.bound, given] at bound
    simp only at bound
    rw [supplies, given]
    cases read : readInsertion words with
    | error error =>
      rw [read] at bound
      cases bound
    | ok supplied =>
      rw [read] at bound
      simp only [read]
      exact (Except.ok.inj bound).symm
  | none =>
    have words : options.bindings ≠ [] := by simpa [interactive, given] using asked
    rw [Options.bound, given] at bound
    obtain ⟨bindings, read, rfl⟩ := bindAll_eq_ok_iff.mp bound
    rw [supplies, given]
    simp only [if_neg words, Dialogue.accepted_of_map read]

/-- A command that does not fail has reached the system that its additions lead to. -/
theorem system_of_reach {options : Options} {input : List UInt8} {system : System Variable Float}
    (led : (options.reach input).2 = .ok system) :
    system = Orbit.system.run (options.supplies input) := by
  cases asked : options.interactive with
  | true =>
    -- The parameters are asked for in a dialogue.
    obtain ⟨inserted, bound⟩ := (Bool.and_eq_true ..).mp asked
    rw [reach, if_pos asked] at led
    obtain ⟨ends, rfl⟩ := Dialogue.result_eq_ok_iff.mp led
    rw [supplies, Option.isNone_iff_eq_none.mp inserted]
    simp only [List.isEmpty_iff.mp bound, if_true]
    exact Dialogue.system_of_converse ends
  | false => exact system_of_bound asked (bound_of_reach asked led) input

/-- A report of these bindings, in the format that is asked for. -/
def printed (options : Options) (shown : List (Variable × Float)) : String :=
  if options.json then
    "\x7b\n" ++ String.intercalate ",\n" (shown.map jsonMember) ++ "\n\x7d\n"
  else unlines (shown.map reportLine)

/-- A system in which something is known is presented by its known bindings. -/
theorem present_eq_printed {options : Options} {system : System Variable Float}
    {symbol : Variable} (member : symbol ∈ system.known) :
    options.present system = options.printed (entries system.known) := by
  cases text : options.json with
  | false => rw [present_of_mem text member, printed, if_neg (by simp [text])]
  | true =>
    rw [present, printed, if_pos text, if_pos text, jsonReport, ← entries_eq_toList]
    have listed : (symbol, system.known[symbol]) ∈ entries system.known :=
      mem_entries.mpr (ExtTreeMap.getElem?_eq_some_getElem member)
    split
    · rename_i none
      rw [none] at listed
      cases listed
    · simp only [String.append_assoc]
      rfl

end Options

end TwoBody
