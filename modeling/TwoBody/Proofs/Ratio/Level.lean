import TwoBody.Input.Ratio
import TwoBody.Proofs.Number.Numeral
import TwoBody.Proofs.Text.Cut

/-!
Levels: the value of an expression by the operators in it, from the loosest to the tightest.

An operator that does not occur has the whole text as its only operand, so each level can be taken
as if its operator occurred.
-/

namespace TwoBody.Ratio

/-- An operand is a number with white space around it or without. -/
theorem operand_of_number {text : List Char} {number : Float}
    (read : readFloat? (trim text) = some number) : operand text = .ok number := by
  -- A number has characters, so something is left once the text is trimmed.
  rw [operand, readNumber, if_neg (ne_nil_of_readFloat? read), String.toList_ofList, read]

/-- A text that is no number is a fault: an operand is missing if there is only white space. -/
theorem operand_of_unread {text : List Char} (unread : readFloat? (trim text) = none) :
    operand text = .error (if text.all isBlank then .emptyOperand (String.ofList text)
      else .invalidNumber (String.ofList text)) := by
  simp only [operand, readNumber, String.toList_ofList, unread, trim_eq_nil_iff]
  split
  · rfl
  · rfl

/-- The value of a text without operators is that of an operand. -/
theorem value_of_none {text : List Char} (none : Operator.loosest? text = none) :
    value text = operand text := by
  rw [value]
  split
  · rfl
  · rename_i operator found
    exact absurd (found.symm.trans none) (by simp)

/-- The value of a text with operators is that of the loosest of them on its operands. -/
theorem value_of_some {text : List Char} {operator : Operator}
    (found : Operator.loosest? text = some operator) :
    value text = (operator.operands text).mapM value >>= fun values =>
      .ok (operator.fold values) := by
  rw [value]
  split
  · rename_i none
    exact absurd (found.symm.trans none) (by simp)
  · -- The operands carry proofs that they are shorter, which their values do not depend on.
    rename_i other same
    cases Option.some.inj (found.symm.trans same)
    rw [List.mapM_subtype (g := value) fun _ _ => rfl, List.unattach_attach]
    rfl

/--
The value of a text by an operator than which no looser one occurs in it.

The operator itself need not occur. The text is then its only operand.
-/
theorem value_of_absent {text : List Char} {looser tighter : List Operator} {operator : Operator}
    (order : Operator.all = looser ++ operator :: tighter)
    (absent : ∀ other ∈ looser, text.any other.isSymbol = false) :
    value text = (operator.operands text).mapM value >>= fun values =>
      .ok (operator.fold values) := by
  cases occurs : text.any operator.isSymbol with
  | true =>
    -- The search passes over the looser ones and finds this operator.
    refine value_of_some ?_
    have none : looser.find? (fun other => text.any other.isSymbol) = none :=
      List.find?_eq_none.mpr (by simpa using absent)
    rw [Operator.loosest?, order, List.find?_append, none, Option.none_or, List.find?_cons, occurs]
  | false =>
    have whole : operator.operands text = [text] :=
      cut_of_forall_not (by simpa using occurs)
    rw [whole, List.mapM_cons, List.mapM_nil]
    -- The only value is that of the text, and folding it leaves it as it is.
    cases value text <;> rfl

end TwoBody.Ratio
