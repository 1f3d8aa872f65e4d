import TwoBody.Input.Binding
import TwoBody.Input.Insertion
import TwoBody.Orbit.System
import TwoBody.Text.Line

/-!
The dialogue that asks for the parameters of an orbit.

The first line chooses between an insertion orbit, which is given on the second line, and bindings,
which are given one on each line until the exit word or the end of the input.
-/

namespace TwoBody

open Orbit

/-- The word that ends the input of bindings. -/
def exitWord : String := "exit"

/-- The word that chooses an insertion orbit. -/
def insertionWord : String := "yes"

/-- Why a command fails. -/
inductive Failure where
  /-- The input is at fault. -/
  | input (error : InputError)
  /-- A line of the input is not valid UTF-8. -/
  | invalidUtf8
  deriving DecidableEq, Repr

/-- The text that reports a failure. -/
def Failure.message : Failure → String
  | input error => error.message
  | invalidUtf8 => "I/O error: stream did not contain valid UTF-8"

/-- What the dialogue waits for. -/
inductive Stage where
  /-- The line that chooses between an insertion orbit and bindings. -/
  | choice
  /-- The line that gives an insertion orbit. -/
  | insertion
  /-- A line with a binding, or the exit word. -/
  | bindings
  /-- Nothing more, with the failure that has ended the dialogue if there was one. -/
  | closed (failure : Option Failure)
  deriving DecidableEq, Repr

/-- A dialogue between two lines of input. -/
structure Dialogue where
  /-- What the dialogue waits for. -/
  stage : Stage
  /-- The system that the dialogue feeds. -/
  system : System Variable Float

namespace Dialogue

/-- The question that opens a dialogue. -/
def choiceQuestion : String :=
  "Do you want to calculate an insertion orbit of another orbit? (Yes/No), No will let you " ++
  "specify all parameters by yourself:\n"

/-- The question for an insertion orbit. -/
def insertionQuestion : String :=
  "Nice, please specify your parameters in the format:\n" ++
  "\"height period_portion GM\".\n" ++
  "If you don't provide a GM, " ++ defaultGm ++ " is used:\n"

/-- The question for bindings. -/
def bindingsQuestion : String :=
  "Okay, now you can go ahead and type all the variables with their values in the format:\n" ++
  "name:value or name=value\n" ++
  "If you want to leave at any point, just type in \"" ++ exitWord ++ "\".\n"

/-- Whether a text is the given word in lower case, in any mixture of upper and lower case. -/
def isWord (word : String) (text : List Char) : Bool :=
  text.map Char.toLower = word.toList

/-- Takes the text of a line, and tells what is written in reply. -/
def hear (dialogue : Dialogue) (text : String) : String × Dialogue :=
  let word := trim text.toList
  match dialogue.stage with
  | .choice =>
    if isWord insertionWord word then
      (insertionQuestion, { dialogue with stage := .insertion })
    else (bindingsQuestion, { dialogue with stage := .bindings })
  | .insertion =>
    match readInsertion ((words text.toList).map String.ofList) with
    | .ok supplied => ("", ⟨.closed none, dialogue.system.add supplied⟩)
    | .error error => ("", { dialogue with stage := .closed (some (.input error)) })
  | .bindings =>
    if isWord exitWord word then ("", { dialogue with stage := .closed none })
    else if word = [] then ("", dialogue)
    else
      match readBinding (String.ofList word) with
      | .ok (symbol, value) => ("", { dialogue with system := dialogue.system.set symbol value })
      | .error error => (error.message ++ "\n", dialogue)
  | .closed _ => ("", dialogue)

/-- Takes the bytes of a line; a closed dialogue does not look at them. -/
def receive (dialogue : Dialogue) (line : List UInt8) : String × Dialogue :=
  match dialogue.stage with
  | .closed _ => ("", dialogue)
  | _ =>
    match lineText? line with
    | some text => dialogue.hear text
    | none => ("", { dialogue with stage := .closed (some .invalidUtf8) })

/-- Takes the end of the input, which answers an open question like an empty line. -/
def finish (dialogue : Dialogue) : String × Dialogue :=
  match dialogue.stage with
  | .choice =>
    let (reply, next) := dialogue.hear ""
    (reply, { next with stage := .closed none })
  | .insertion => dialogue.hear ""
  | .bindings => ("", { dialogue with stage := .closed none })
  | .closed _ => ("", dialogue)

/-- Takes the given lines and the end of the input, and tells all that is written in reply. -/
def converse (dialogue : Dialogue) : List (List UInt8) → String × Dialogue
  | [] => dialogue.finish
  | line :: rest =>
    let (reply, next) := dialogue.receive line
    let (replies, last) := next.converse rest
    (reply ++ replies, last)

/-- A dialogue that is about to ask its first question. -/
def start (system : System Variable Float) : Dialogue :=
  ⟨.choice, system⟩

/-- The failure that has ended the dialogue. -/
def failure? (dialogue : Dialogue) : Option Failure :=
  match dialogue.stage with
  | .closed failure => failure
  | _ => none

/-- The system that the dialogue has led to, unless it has failed. -/
def result (dialogue : Dialogue) : Except Failure (System Variable Float) :=
  match dialogue.failure? with
  | some failure => .error failure
  | none => .ok dialogue.system

/-- A whole dialogue: all text that is written, and the dialogue at its end. -/
def run (system : System Variable Float) (input : List UInt8) : String × Dialogue :=
  let (replies, last) := (start system).converse (lines input)
  (choiceQuestion ++ replies, last)

end Dialogue

end TwoBody
