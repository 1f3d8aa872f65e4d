import TwoBody.Proofs.Ratio.Level

/-!
Segments: the parts of an expression between its operators, and the one that decides a failure.

The operands are read in the order of their levels. As each level goes from left to right, the first
fault that is found is nevertheless the leftmost one in the text.
-/

namespace TwoBody

/-- Whether a character stands for an operator. -/
def isOperator (character : Char) : Bool :=
  ['+', '-', '/', '*'].contains character

namespace Ratio

/-- The symbol of each operator stands for one. -/
theorem isOperator_of_isSymbol {operator : Operator} {character : Char}
    (symbol : operator.isSymbol character) : isOperator character := by
  rw [eq_of_beq symbol]
  cases operator <;> decide

/-- A character that stands for an operator is the symbol of one. -/
theorem exists_isSymbol_of_isOperator {character : Char} (stands : isOperator character) :
    ∃ operator : Operator, operator.isSymbol character := by
  simp only [isOperator, List.contains_iff_mem, List.mem_cons, List.not_mem_nil, or_false] at stands
  rcases stands with rfl | rfl | rfl | rfl
  · exact ⟨.plus, rfl⟩
  · exact ⟨.minus, rfl⟩
  · exact ⟨.dividedBy, rfl⟩
  · exact ⟨.times, rfl⟩

/-- A text in which no operator is found has no symbols of operators. -/
theorem not_isOperator_of_none {text : List Char} (none : Operator.loosest? text = none) :
    ∀ character ∈ text, isOperator character = false := by
  intro character member
  refine Bool.eq_false_iff.mpr fun stands => ?_
  obtain ⟨operator, symbol⟩ := exists_isSymbol_of_isOperator stands
  have listed : operator ∈ Operator.all := by cases operator <;> decide
  -- The search would have found this operator, or one before it.
  exact List.find?_eq_none.mp none operator listed
    (List.any_eq_true.mpr ⟨character, member, symbol⟩)

/-- The error of a reading that fails. -/
def fault? {α : Type} : Except InputError α → Option InputError
  | .ok _ => none
  | .error error => some error

/-- What is done with a value does not change whether there is one. -/
theorem fault?_bind_ok {α β : Type} (reading : Except InputError α) (next : α → β) :
    fault? (reading >>= fun result => .ok (next result)) = fault? reading := by
  cases reading <;> rfl

/-- Pieces that are read one after the other fail at the first segment that is no operand. -/
theorem fault?_mapM_value {pieces : List (List Char)}
    (each : ∀ piece ∈ pieces, fault? (value piece) =
      (cut isOperator piece).findSome? fun segment => fault? (operand segment)) :
    fault? (pieces.mapM value) =
      (pieces.flatMap (cut isOperator)).findSome? fun segment => fault? (operand segment) := by
  -- The induction is on the pieces still to read.
  induction pieces with
  | nil => rfl
  | cons piece rest ih =>
    obtain ⟨first, others⟩ := List.forall_mem_cons.mp each
    rw [List.flatMap_cons, List.findSome?_append, ← first, ← ih others, List.mapM_cons]
    cases value piece with
    | error error => rfl
    | ok result => exact fault?_bind_ok _ _

/-- An expression fails at its first segment that is no operand. -/
theorem fault?_value (text : List Char) :
    fault? (value text) =
      (cut isOperator text).findSome? fun segment => fault? (operand segment) := by
  -- The induction follows the division of the text into ever smaller operands.
  induction text using value.induct with
  | case1 text none =>
    rw [value_of_none none, cut_of_forall_not (not_isOperator_of_none none),
      List.findSome?_singleton]
  | case2 text operator found ih =>
    rw [value_of_some found, fault?_bind_ok, fault?_mapM_value ih]
    -- Cutting the operands at all operators gives the segments of the whole text.
    rw [cut_eq_flatMap_cut fun _ => isOperator_of_isSymbol]
    rfl

/-- A reading without a fault gives a value. -/
theorem fault?_eq_none_iff {α : Type} {reading : Except InputError α} :
    fault? reading = none ↔ ∃ result, reading = .ok result := by
  cases reading <;> simp [fault?]

/-- A reading with a fault fails for it. -/
theorem fault?_eq_some_iff {α : Type} {reading : Except InputError α} {error : InputError} :
    fault? reading = some error ↔ reading = .error error := by
  cases reading <;> simp [fault?]

/-- An operand has no fault exactly if it is a number. -/
theorem fault?_operand_eq_none_iff {segment : List Char} :
    fault? (operand segment) = none ↔ (readFloat? (trim segment)).isSome := by
  cases read : readFloat? (trim segment) with
  | none => simp [operand_of_unread read, fault?]
  | some number => simp [operand_of_number read, fault?]

end Ratio

/--
An expression is read exactly if all of its segments are numbers, and otherwise blames the first.

The segments are what is left of the text between operators, whichever these are. The first one that
is no number decides: an operand is missing if it is nothing but white space, and the error has the
segment as it stands in the text.
-/
theorem readRatio_segments (text : String) :
    let segments := text.toList.splitOnP isOperator
    ((∃ value, readRatio text = .ok value) ↔
      ∀ segment ∈ segments, (readFloat? (trim segment)).isSome) ∧
    ∀ front segment back, segments = front ++ segment :: back →
      (∀ earlier ∈ front, (readFloat? (trim earlier)).isSome) →
      readFloat? (trim segment) = none →
        readRatio text = .error (if segment.all isBlank then .emptyOperand (String.ofList segment)
          else .invalidNumber (String.ofList segment)) := by
  -- The expression has the first fault of its segments, if one of them has any.
  intro segments
  have faults : Ratio.fault? (readRatio text) =
      segments.findSome? fun segment => Ratio.fault? (Ratio.operand segment) := by
    rw [readRatio, Ratio.fault?_value, cut_eq_splitOnP]
  constructor
  · rw [← Ratio.fault?_eq_none_iff, faults, List.findSome?_eq_none_iff]
    simp only [Ratio.fault?_operand_eq_none_iff]
  · intro front segment back split good unread
    refine Ratio.fault?_eq_some_iff.mp (faults.trans ?_)
    -- The segments in front of it have no fault.
    refine List.findSome?_eq_some_iff.mpr ⟨front, segment, back, split, ?_, fun earlier member =>
      Ratio.fault?_operand_eq_none_iff.mpr (good earlier member)⟩
    exact Ratio.fault?_eq_some_iff.mpr (Ratio.operand_of_unread unread)

/-- A segment of white space is blamed although a looser operator lacks its operand as well. -/
theorem readRatio_segments_blank :
    let text := "2*3 -\t/x+"
    let segments := text.toList.splitOnP isOperator
    segments = ["2", "3 ", "\t", "x", ""].map String.toList ∧
    (readFloat? (trim "2".toList)).isSome ∧ (readFloat? (trim "3 ".toList)).isSome ∧
    readFloat? (trim "\t".toList) = none ∧
    readRatio text = .error (.emptyOperand "\t") := by
  intro text segments
  have split : segments = ["2", "3 ", "\t", "x", ""].map String.toList := by decide +kernel
  have first : (readFloat? (trim "2".toList)).isSome := by decide +kernel
  have second : (readFloat? (trim "3 ".toList)).isSome := by decide +kernel
  have unread : readFloat? (trim "\t".toList) = none := by decide +kernel
  refine ⟨split, first, second, unread, ?_⟩
  exact (readRatio_segments text).2 ["2".toList, "3 ".toList] "\t".toList ["x".toList, "".toList]
    split (by simp only [List.forall_mem_cons]; exact ⟨first, second, List.forall_mem_nil _⟩) unread

end TwoBody
