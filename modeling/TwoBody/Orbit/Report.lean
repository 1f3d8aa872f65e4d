import TwoBody.Number.Layout
import TwoBody.Orbit.Variable

/-! Reports of the known bindings, as lines of text and as a JSON object. -/

namespace TwoBody.Orbit

/-- The known bindings, in the order of the variables. -/
def entries (known : Bindings Variable Float) : List (Variable × Float) :=
  Variable.all.filterMap fun symbol => known[symbol]?.map fun value => (symbol, value)

/-- One line of a text report. -/
def reportLine (binding : Variable × Float) : String :=
  binding.1.name ++ " = " ++ Layout.plain.render binding.2

/-- The known bindings as text, one `name = value` on each line. -/
def report (known : Bindings Variable Float) : String :=
  String.intercalate "\n" ((entries known).map reportLine)

/-- A variable as a JSON string; its name needs no escapes. -/
def Variable.toJson (symbol : Variable) : String :=
  "\"" ++ symbol.name ++ "\""

/-- One member of a JSON report. -/
def jsonMember (binding : Variable × Float) : String :=
  "  " ++ binding.1.toJson ++ ": " ++ Layout.json.render binding.2

/-- The known bindings as a JSON object, one member on each line, in the order of the map. -/
def jsonReport (known : Bindings Variable Float) : String :=
  match known.toList with
  | [] => "\x7b\x7d"
  | members => "\x7b\n" ++ String.intercalate ",\n" (members.map jsonMember) ++ "\n\x7d"

end TwoBody.Orbit
