import TwoBody.Command.Outcome

/-! The command line program. -/

namespace TwoBody

/-- Reads one line with the byte that ends it; at the end of the input it is empty. -/
partial def readLine (input : IO.FS.Stream) (before : Array UInt8) : IO (List UInt8) := do
  let bytes ← input.read 1
  if bytes.isEmpty then return before.toList
  let line := before ++ bytes.data
  if line.back? = some lineFeed then return line.toList else readLine input line

/-- Holds a dialogue until it is closed, writing each reply at once. -/
partial def hold (input output : IO.FS.Stream) (dialogue : Dialogue) : IO Dialogue := do
  let line ← if dialogue.stage matches .closed _ then pure [] else readLine input #[]
  let (reply, next) := if line.isEmpty then dialogue.finish else dialogue.receive line
  output.putStr reply
  output.flush
  if line.isEmpty then return next else hold input output next

/-- Writes what an outcome has to show and gives its exit code. -/
def emit (outcome : Outcome) : IO UInt32 := do
  (← IO.getStdout).putStr outcome.stdout
  (← IO.getStderr).putStr outcome.stderr
  return outcome.exitCode.toUInt32

/-- Runs a request, in a dialogue if there are no arguments. -/
def perform (arguments : List String) : IO UInt32 := do
  match Request.ofWords? arguments with
  | some (.solve options) =>
    if options.interactive then
      let output ← IO.getStdout
      output.putStr Dialogue.choiceQuestion
      output.flush
      let last ← hold (← IO.getStdin) output (Dialogue.start Orbit.system)
      emit (options.conclude "" last.result)
    else emit (runCommand arguments [])
  | _ => emit (runCommand arguments [])

end TwoBody

/-- Runs the program. -/
def main (arguments : List String) : IO UInt32 :=
  TwoBody.perform arguments
