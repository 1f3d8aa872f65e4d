import TwoBody.Input.Value
import TwoBody.Text.Cut

/-!
Ratio expressions: numbers with operators between them, such as `1/2` or `2/3+1`.

There are no parentheses and no signs. Each operator has a rank of its own: sums bind the loosest,
then differences, then quotients, and products bind the tightest. Equal operators group to the left.
-/

namespace TwoBody

/-- An operator of a ratio expression. -/
inductive Operator where
  | plus
  | minus
  | dividedBy
  | times
  deriving DecidableEq, Repr

namespace Operator

/-- The operators, from the one that binds the loosest. -/
def all : List Operator :=
  [plus, minus, dividedBy, times]

/-- The character that stands for an operator. -/
def symbol : Operator → Char
  | plus => '+'
  | minus => '-'
  | dividedBy => '/'
  | times => '*'

/-- What an operator computes. -/
def apply : Operator → Float → Float → Float
  | plus => (· + ·)
  | minus => (· - ·)
  | dividedBy => (· / ·)
  | times => (· * ·)

/-- Whether a character stands for the operator. -/
def isSymbol (operator : Operator) (character : Char) : Bool :=
  character == operator.symbol

/-- The loosest operator of a text. -/
def loosest? (text : List Char) : Option Operator :=
  all.find? fun operator => text.any operator.isSymbol

/-- The operands of an operator: the pieces of a text between its symbols. -/
def operands (operator : Operator) (text : List Char) : List (List Char) :=
  cut operator.isSymbol text

/-- The loosest operator of a text occurs in it. -/
theorem any_isSymbol_of_loosest? {operator : Operator} {text : List Char}
    (found : loosest? text = some operator) : text.any operator.isSymbol := by
  -- The search returns an operator that passed its test.
  unfold loosest? at found
  simpa using List.find?_some found

/-- Each operand of the loosest operator is shorter than the whole text. -/
theorem length_lt_of_mem_operands {operator : Operator} {text operand : List Char}
    (found : loosest? text = some operator) (member : operand ∈ operator.operands text) :
    operand.length < text.length :=
  length_lt_of_mem_cut (any_isSymbol_of_loosest? found) member

/-- The value of an operator on operands, grouped to the left; no text has an empty list of them. -/
def fold (operator : Operator) : List Float → Float
  | [] => 0
  | first :: others => others.foldl operator.apply first

end Operator

namespace Ratio

/-- The value of an operand without operators. -/
def operand (text : List Char) : Except InputError Float :=
  if trim text = [] then .error (.emptyOperand (String.ofList text))
  else readNumber (String.ofList text)

/-- The value of an expression: its loosest operator is applied to the values of its operands. -/
def value (text : List Char) : Except InputError Float :=
  match found : Operator.loosest? text with
  | none => operand text
  | some operator => do
    let values ← (operator.operands text).attach.mapM fun ⟨piece, member⟩ =>
      have : piece.length < text.length := Operator.length_lt_of_mem_operands found member
      value piece
    return operator.fold values
termination_by text.length

end Ratio

/-- Reads a ratio expression and computes its value. -/
def readRatio (text : String) : Except InputError Float :=
  Ratio.value text.toList

end TwoBody
