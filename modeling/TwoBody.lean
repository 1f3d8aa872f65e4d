import TwoBody.Main
import TwoBody.Formula.Table
import TwoBody.Orbit.VariableJson
import TwoBody.Proofs.System.Rescan
import TwoBody.Proofs.System.Agreement
import TwoBody.Proofs.System.Justification
import TwoBody.Proofs.System.Retention
import TwoBody.Proofs.System.Work
import TwoBody.Proofs.Number.Plain
import TwoBody.Proofs.Input.ResultLine
import TwoBody.Proofs.System.Replay
import TwoBody.Proofs.Command.Reach
import TwoBody.Proofs.Command.Replay
import TwoBody.Proofs.Command.Order
import TwoBody.Proofs.Ratio.Level
import TwoBody.Proofs.Number.Numeral
import TwoBody.Proofs.Ratio.Precedence
import TwoBody.Proofs.Ratio.Segments
import TwoBody.Proofs.Text.Line
import TwoBody.Proofs.Text.Words
import TwoBody.Proofs.Command.Dialogue
import TwoBody.Proofs.Input.Error
import TwoBody.Proofs.Dialogue.Bindings
import TwoBody.Proofs.Dialogue.Failure
import TwoBody.Proofs.Orbit.Derivable
import TwoBody.Proofs.Command.Supplies
import TwoBody.Proofs.Command.Printed
import TwoBody.Proofs.Command.Insertion
import TwoBody.Proofs.Command.CentralBody
import TwoBody.Proofs.Orbit.Yield
import TwoBody.Proofs.Input.Value
import TwoBody.Proofs.Input.Grammar
import TwoBody.Proofs.Input.Report
import TwoBody.Proofs.Number.Exact
import TwoBody.Proofs.Number.Shortest
import TwoBody.Proofs.Number.Tie
import TwoBody.Proofs.Number.Denotation
import TwoBody.Proofs.Command.Format
import TwoBody.Proofs.Formula.Edits
import TwoBody.Proofs.Formula.Positions
import TwoBody.Proofs.System.SinglePass
import TwoBody.Proofs.Input.Insertion
import TwoBody.Proofs.System.Account
import TwoBody.Proofs.Ratio.Record
import TwoBody.Proofs.System.Derivation
import TwoBody.Proofs.System.Translation
import TwoBody.Proofs.Number.Counted
import TwoBody.Proofs.Orbit.Consistency
