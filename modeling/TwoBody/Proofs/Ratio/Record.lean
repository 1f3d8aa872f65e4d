import Mathlib.Data.List.Nodup
import TwoBody.Proofs.Ratio.Precedence

/-!
Record: the calls that reading an expression makes, and the values that it folds.

An expression is read once more with a record, which leaves its value as it is. Each call goes on to
the operands of the loosest operator, and no operand has that operator any more. As there are only
four operators, no text is read inside more than four others.
-/

namespace TwoBody

namespace Ratio

/-- A text that is divided, and the operator at which it is. -/
structure Division where
  /-- The text whose operands are read. -/
  text : List Char
  /-- The operator between the operands. -/
  operator : Operator

/-- What happens while an expression is read. -/
inductive Event where
  /-- A text is read as an operand of the divided texts around it, the innermost of them first. -/
  | call (around : List Division) (text : List Char)
  /-- The values of the operands of a text are folded. -/
  | fold (operator : Operator) (values : List Float)

/-- A reading that puts events on record, also if it fails after them. -/
abbrev Recorder : Type → Type :=
  ExceptT InputError (StateM (List Event))

/-- Puts an event on record. -/
def note (event : Event) : Recorder Unit :=
  modify fun events => events ++ [event]

/-- The value of an expression, with every call and every fold on record. -/
def valueOnRecord (around : List Division) (text : List Char) : Recorder Float := do
  note (.call around text)
  match found : Operator.loosest? text with
  | none => ExceptT.mk (pure (operand text))
  | some operator => do
    let values ← (operator.operands text).attach.mapM fun ⟨piece, member⟩ =>
      have : piece.length < text.length := Operator.length_lt_of_mem_operands found member
      valueOnRecord (⟨text, operator⟩ :: around) piece
    note (.fold operator values)
    return operator.fold values
termination_by text.length

/-- What reading an expression gives, with the events on the way, in order. -/
def record (text : String) : Except InputError Float × List Event :=
  (valueOnRecord [] text.toList).run.run []

/-- A text is read inside others, each of them divided at its loosest operator. -/
inductive Inside : List Division → List Char → Prop where
  /-- At first a text is read inside no other. -/
  | whole (text : List Char) : Inside [] text
  /-- A text with an operator has its operands read inside it. -/
  | operand {around : List Division} {text piece : List Char} {operator : Operator}
      (outer : Inside around text) (found : Operator.loosest? text = some operator)
      (member : piece ∈ operator.operands text) : Inside (⟨text, operator⟩ :: around) piece

/-- An operand is not written with the operator that divides, nor with one that the text lacks. -/
theorem without_of_mem_operands {operators : List Operator} {operator : Operator}
    {text piece : List Char} (without : Without operators text)
    (member : piece ∈ operator.operands text) : Without (operator :: operators) piece := by
  intro other listed character inside
  -- The characters of the operand are characters of the text that do not divide it.
  obtain ⟨whole, solid⟩ := List.mem_filter.mp ((sublist_of_mem_cut member).subset inside)
  rcases List.mem_cons.mp listed with rfl | listed
  · simpa using solid
  · exact without other listed character whole

/-- The loosest operator of a text is none of those that the text is written without. -/
theorem not_mem_of_loosest? {operators : List Operator} {operator : Operator} {text : List Char}
    (without : Without operators text) (found : Operator.loosest? text = some operator) :
    operator ∉ operators := by
  intro listed
  obtain ⟨character, member, symbol⟩ :=
    List.any_eq_true.mp (Operator.any_isSymbol_of_loosest? found)
  simp [without operator listed character member] at symbol

/-- A text is written without the operators of the divided texts around it. -/
theorem Inside.without {around : List Division} {text : List Char} (inside : Inside around text) :
    Without (around.map Division.operator) text := by
  -- The induction goes from the whole expression to the operands inside it.
  induction inside with
  | whole text => simp [Without]
  | operand _ _ member ih => exact without_of_mem_operands ih member

/-- A text is shorter than each of the divided texts around it. -/
theorem Inside.length_lt {around : List Division} {text : List Char}
    (inside : Inside around text) : ∀ division ∈ around, text.length < division.text.length := by
  induction inside with
  | whole text => simp
  | operand _ found member ih =>
    have shorter := Operator.length_lt_of_mem_operands found member
    exact List.forall_mem_cons.mpr ⟨shorter, fun division listed =>
      Nat.lt_trans shorter (ih division listed)⟩

/-- No two of the divided texts around a text are divided at the same operator. -/
theorem Inside.nodup {around : List Division} {text : List Char} (inside : Inside around text) :
    (around.map Division.operator).Nodup := by
  induction inside with
  | whole text => exact .nil
  | operand outer found _ ih =>
    exact List.nodup_cons.mpr ⟨not_mem_of_loosest? outer.without found, ih⟩

/-- No text is read inside more than four others. -/
theorem Inside.length_le {around : List Division} {text : List Char}
    (inside : Inside around text) : around.length ≤ 4 := by
  -- There are no more operators than these.
  have listed : around.map Division.operator ⊆ Operator.all := by
    intro operator _
    cases operator <;> decide
  simpa [Operator.all] using inside.nodup.length_le_of_subset listed

/-- A call is made for a text inside others, and a fold is made of one or more values. -/
def Event.Regular : Event → Prop
  | call around text => Inside around text
  | fold _ values => values ≠ []

/-- A reading has this outcome, and puts only regular events on record. -/
def Gives {α : Type} (reading : Recorder α) (outcome : Except InputError α) : Prop :=
  -- What was on record before stays in front of them.
  ∀ before, ∃ added, reading.run.run before = (outcome, before ++ added) ∧
    ∀ event ∈ added, event.Regular

section Gives

variable {α β : Type}

/-- An outcome without any events. -/
theorem gives_mk (outcome : Except InputError α) : Gives (ExceptT.mk (pure outcome)) outcome := by
  intro before
  exact ⟨[], by rw [List.append_nil]; rfl, by simp⟩

/-- One reading may follow another, and does so unless the first one fails. -/
theorem Gives.bind {reading : Recorder α} {outcome : Except InputError α} {next : α → Recorder β}
    {result : α → Except InputError β} (first : Gives reading outcome)
    (second : ∀ value, outcome = .ok value → Gives (next value) (result value)) :
    Gives (reading >>= next) (outcome >>= result) := by
  intro before
  obtain ⟨early, ran, regular⟩ := first before
  cases outcome with
  | error error =>
    refine ⟨early, ?_, regular⟩
    rw [ExceptT.run_bind, StateT.run_bind, ran]
    rfl
  | ok value =>
    obtain ⟨late, followed, regularToo⟩ := second value rfl (before ++ early)
    refine ⟨early ++ late, ?_, List.forall_mem_append.mpr ⟨regular, regularToo⟩⟩
    rw [ExceptT.run_bind, StateT.run_bind, ran, ← List.append_assoc]
    exact followed

/-- A regular event may be put on record in front of a reading. -/
theorem Gives.note {event : Event} (regular : event.Regular) {reading : Recorder α}
    {outcome : Except InputError α} (rest : Gives reading outcome) :
    Gives (Ratio.note event >>= fun _ => reading) outcome := by
  have first : Gives (Ratio.note event) (.ok ()) := fun before =>
    ⟨[event], rfl, by simpa using regular⟩
  exact first.bind fun _ _ => rest

/-- Texts may be read one after the other, up to the first that fails. -/
theorem gives_mapM {read : List Char → Recorder α} {outcome : List Char → Except InputError α}
    {pieces : List (List Char)} (each : ∀ piece ∈ pieces, Gives (read piece) (outcome piece)) :
    Gives (pieces.mapM read) (pieces.mapM outcome) := by
  -- The induction is on the texts still to read.
  induction pieces with
  | nil => exact gives_mk (.ok [])
  | cons piece rest ih =>
    obtain ⟨first, others⟩ := List.forall_mem_cons.mp each
    rw [List.mapM_cons, List.mapM_cons]
    exact first.bind fun value _ =>
      (ih others).bind fun values _ => gives_mk (.ok (value :: values))

end Gives

/-- Reading one or more texts gives one or more values. -/
theorem ne_nil_of_mapM {α : Type} {outcome : List Char → Except InputError α}
    {pieces : List (List Char)} {values : List α} (some : pieces ≠ [])
    (read : pieces.mapM outcome = .ok values) : values ≠ [] := by
  obtain ⟨first, rest, rfl⟩ := List.exists_cons_of_ne_nil some
  rintro rfl
  rw [List.mapM_cons] at read
  -- Where the first text and the others are read, the values begin with that of the first one.
  cases head : outcome first with
  | error error => simp [head, bind, Except.bind] at read
  | ok value =>
    cases others : rest.mapM outcome with
    | error error => simp [head, others, bind, Except.bind] at read
    | ok values => simp [head, others, bind, Except.bind, pure, Except.pure] at read

/-- A text without operators is read as an operand, after the call is put on record. -/
theorem valueOnRecord_of_none {text : List Char} (none : Operator.loosest? text = none)
    (around : List Division) :
    valueOnRecord around text =
      note (.call around text) >>= fun _ => ExceptT.mk (pure (operand text)) := by
  rw [valueOnRecord]
  split
  · rfl
  · rename_i operator found
    exact absurd (found.symm.trans none) (by simp)

/-- A text with operators has its operands read between the call and the fold. -/
theorem valueOnRecord_of_some {text : List Char} {operator : Operator}
    (found : Operator.loosest? text = some operator) (around : List Division) :
    valueOnRecord around text =
      note (.call around text) >>= fun _ =>
        (operator.operands text).mapM (valueOnRecord (⟨text, operator⟩ :: around)) >>= fun values =>
          note (.fold operator values) >>= fun _ =>
            ExceptT.mk (pure (.ok (operator.fold values))) := by
  rw [valueOnRecord]
  split
  · rename_i none
    exact absurd (found.symm.trans none) (by simp)
  · -- The operands carry proofs that they are shorter, which their values do not depend on.
    rename_i other same
    cases Option.some.inj (found.symm.trans same)
    rw [List.mapM_subtype (g := valueOnRecord (⟨text, operator⟩ :: around)) fun _ _ => rfl,
      List.unattach_attach]
    rfl

/-- Behind the call of a text, reading on record gives its value and only regular events. -/
theorem exists_gives_value {around : List Division} {text : List Char}
    (inside : Inside around text) :
    ∃ rest, (valueOnRecord around text = note (.call around text) >>= fun _ => rest) ∧
      Gives rest (value text) := by
  -- The induction follows the division of the text into ever smaller operands.
  induction text using value.induct generalizing around with
  | case1 text none =>
    refine ⟨_, valueOnRecord_of_none none around, ?_⟩
    rw [value_of_none none]
    exact gives_mk _
  | case2 text operator found ih =>
    refine ⟨_, valueOnRecord_of_some found around, ?_⟩
    rw [value_of_some found]
    -- The operands are called in order, each of them inside this text.
    have pieces : Gives ((operator.operands text).mapM (valueOnRecord (⟨text, operator⟩ :: around)))
        ((operator.operands text).mapM value) := by
      refine gives_mapM fun piece member => ?_
      have inner : Inside (⟨text, operator⟩ :: around) piece := .operand inside found member
      obtain ⟨rest, begins, gives⟩ := ih piece member inner
      have call : Event.Regular (.call (⟨text, operator⟩ :: around) piece) := inner
      rw [begins]
      exact .note call gives
    refine pieces.bind fun values read => ?_
    -- There is at least one operand, so there are values to fold.
    have fold : Event.Regular (.fold operator values) := ne_nil_of_mapM (cut_ne_nil _ _) read
    exact .note fold (gives_mk _)

end Ratio

/--
The recursion of a reading is bounded whatever the text is.

The record changes nothing about what is read, and begins with the call for the whole text. No call
is made inside more than four others. Each text that is read inside others is an operand of the
innermost of them. It is shorter than all of them, and has none of the operators at which they were
divided. Whatever is folded has at least one value.
-/
theorem readRatio_recursion_bounded (text : String) :
    let events := (Ratio.record text).2
    (Ratio.record text).1 = readRatio text ∧
    events.head? = some (.call [] text.toList) ∧
    (∀ around inner, .call around inner ∈ events →
      around.length + 1 ≤ 5 ∧
      (∀ outer further, around = outer :: further →
        inner ∈ outer.operator.operands outer.text) ∧
      (∀ outer ∈ around, inner.length < outer.text.length) ∧
      ∀ outer ∈ around, ∀ character ∈ inner, outer.operator.isSymbol character = false) ∧
    ∀ operator values, .fold operator values ∈ events → values ≠ [] := by
  have whole : Ratio.Inside [] text.toList := .whole text.toList
  obtain ⟨rest, begins, gives⟩ := Ratio.exists_gives_value whole
  obtain ⟨later, ran, regular⟩ := gives [.call [] text.toList]
  have recorded : Ratio.record text = (readRatio text, .call [] text.toList :: later) := by
    rw [Ratio.record, begins]
    exact ran
  -- The first call is as regular as what follows.
  have regular : ∀ event ∈ Ratio.Event.call [] text.toList :: later, event.Regular :=
    List.forall_mem_cons.mpr ⟨whole, regular⟩
  simp only [recorded]
  refine ⟨trivial, rfl, ?_, fun operator values member => regular _ member⟩
  intro around inner member
  have inside : Ratio.Inside around inner := regular _ member
  refine ⟨Nat.succ_le_succ inside.length_le, ?_, inside.length_lt, ?_⟩
  · rintro outer further rfl
    cases inside with
    | operand _ _ member => exact member
  · intro outer listed
    exact inside.without outer.operator (List.mem_map_of_mem listed)

/-- The bound is reached where each operator is looser than the one behind it. -/
example : (Ratio.record "1+2-3/4*5").2.any (fun
    | .call around _ => around.length + 1 == 5
    | .fold _ _ => false) = true := by
  decide +kernel

end TwoBody
