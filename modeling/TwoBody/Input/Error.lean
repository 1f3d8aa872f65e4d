import TwoBody.Text.Quoted

/-! What can be wrong with typed input, and the text that says so. -/

namespace TwoBody

/-- A fault in typed input. -/
inductive InputError where
  /-- The text is not the name of an orbit variable. -/
  | unknownVariable (text : String)
  /-- A binding has nothing between its name and its value. -/
  | missingSeparator (text : String)
  /-- The text is neither a number nor a constant that is allowed here. -/
  | invalidNumber (text : String)
  /-- An operator has no operand on one of its sides. -/
  | emptyOperand (text : String)
  /-- An insertion orbit is given by two or three arguments. -/
  | insertionArguments (count : Nat)
  deriving DecidableEq, Repr

/-- The text that reports a fault. -/
def InputError.message : InputError → String
  | unknownVariable text => "Unknown variable " ++ quoted text
  | missingSeparator text => "Expected name=value or name:value, got " ++ quoted text
  | invalidNumber text => "Invalid number " ++ quoted text
  | emptyOperand text => "Missing operand in expression " ++ quoted text
  | insertionArguments count =>
    "Expected \x60height portion [GM]\x60, got " ++ inspect count ++ " arguments"

end TwoBody
