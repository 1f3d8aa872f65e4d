import TwoBody.Input.Value
import TwoBody.Orbit.Variable

/-! Bindings in typed input: `name=value` or `name:value`. -/

namespace TwoBody

open Orbit

/-- Whether a character separates the name of a binding from its value. -/
def isSeparator (character : Char) : Bool :=
  character == '=' || character == ':'

/-- Reads the short name of a variable. -/
def readVariable (text : String) : Except InputError Variable :=
  match Variable.ofName? text with
  | some symbol => .ok symbol
  | none => .error (.unknownVariable text)

/-- Reads a binding, which is divided at its first separator. -/
def readBinding (text : String) : Except InputError (Variable × Float) :=
  let name := text.toList.takeWhile fun character => !isSeparator character
  match text.toList.dropWhile fun character => !isSeparator character with
  | [] => .error (.missingSeparator text)
  | _ :: value => do
    let symbol ← readVariable (String.ofList (trim name))
    let number ← readValue (String.ofList (trim value))
    return (symbol, number)

end TwoBody
