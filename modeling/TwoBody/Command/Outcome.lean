import TwoBody.Command.Request
import TwoBody.Orbit.Report
import TwoBody.Dialogue

/-! What a command prints and how it exits. -/

namespace TwoBody

open Orbit

/--
What a command leaves behind.

Three texts are left out: the help, the message on wrong usage, and the log line that a malformed
line of a dialogue causes.
-/
structure Outcome where
  /-- Zero for success, one for a failure, two for wrong usage. -/
  exitCode : Nat
  /-- All text written as output, but for the help. -/
  stdout : String
  /-- The line that reports why a command fails, but neither wrong usage nor any log lines. -/
  stderr : String
  deriving DecidableEq, Repr

namespace Outcome

/-- Wrong usage; the text that explains it is left out. -/
def misuse : Outcome :=
  ⟨2, "", ""⟩

/-- The name and the version of the program. -/
def version : Outcome :=
  ⟨0, "orbit-formulas 0.1.0\n", ""⟩

/-- The help; its text is left out. -/
def help : Outcome :=
  ⟨0, "", ""⟩

end Outcome

namespace Options

/-- The report of a system in the format that is asked for. -/
def present (options : Options) (system : System Variable Float) : String :=
  (if options.json then jsonReport system.known else report system.known) ++ "\n"

/-- Whether the parameters are asked for in a dialogue. -/
def interactive (options : Options) : Bool :=
  options.insertion.isNone && options.bindings.isEmpty

/-- Sets the given bindings one after the other; the first that is malformed decides. -/
def bindAll (system : System Variable Float) :
    List String → Except InputError (System Variable Float)
  | [] => .ok system
  | word :: rest => do
    let (symbol, value) ← readBinding word
    bindAll (system.set symbol value) rest

/-- The system that the arguments lead to. -/
def bound (options : Options) : Except InputError (System Variable Float) :=
  match options.insertion with
  | some arguments => (readInsertion arguments).map Orbit.system.add
  | none => bindAll Orbit.system options.bindings

/--
What is written on the way, and the system that is reached or the failure that prevents it.

The input is read only where there are no arguments.
-/
def reach (options : Options) (input : List UInt8) :
    String × Except Failure (System Variable Float) :=
  if options.interactive then
    let (output, last) := Dialogue.run Orbit.system input
    (output, last.result)
  else ("", options.bound.mapError Failure.input)

/-- The outcome after the given output, once a system is reached or has failed to be. -/
def conclude (options : Options) (output : String) :
    Except Failure (System Variable Float) → Outcome
  | .ok system => ⟨0, output ++ options.present (withGm system), ""⟩
  | .error failure => ⟨1, output, "error: " ++ failure.message ++ "\n"⟩

/-- Computes an orbit. -/
def solve (options : Options) (input : List UInt8) : Outcome :=
  let (output, reached) := options.reach input
  options.conclude output reached

end Options

/-- The outcome of the command with the given arguments and standard input. -/
def runCommand (arguments : List String) (input : List UInt8) : Outcome :=
  match Request.ofWords? arguments with
  | none => .misuse
  | some .version => .version
  | some .help => .help
  | some (.solve options) => options.solve input

end TwoBody
