import TwoBody.Proofs.Command.Supplies
import TwoBody.Proofs.Number.Denotation

/-!
Printed bindings: what the lines of a report and the members of a JSON object tell.

Each of them has the name of its variable and a text that tells the value. Both formats list the
bindings in the same order.
-/

namespace TwoBody

open Orbit

/-- A line of text tells a binding: its name, and its value behind an equals sign. -/
def TellsInText (binding : Variable × Float) (line : String) : Prop :=
  ∃ text, PlainText binding.2 text ∧ line = binding.1.name ++ " = " ++ text

/-- A member of a JSON object tells a binding: its name as a string, and its value. -/
def TellsInJson (binding : Variable × Float) (member : String) : Prop :=
  ∃ text, JsonText binding.2 text ∧ member = "  \"" ++ binding.1.name ++ "\": " ++ text

/-- An output prints these bindings in order, either as JSON or as text. -/
inductive Prints (shown : List (Variable × Float)) : Bool → String → Prop
  /-- Each line of text tells one binding. -/
  | text {lines : List String} (told : List.Forall₂ TellsInText shown lines) :
    Prints shown false (unlines lines)
  /-- Each member of the JSON object tells one binding. -/
  | json {members : List String} (told : List.Forall₂ TellsInJson shown members) :
    Prints shown true ("\x7b\n" ++ String.intercalate ",\n" members ++ "\n\x7d\n")

/-- A result line tells its binding. -/
theorem tellsInText_reportLine (binding : Variable × Float) :
    TellsInText binding (reportLine binding) :=
  ⟨_, Layout.plainText_render binding.2, rfl⟩

/-- A member of a report in JSON is a name as a string and a number. -/
theorem jsonMember_eq (binding : Variable × Float) :
    jsonMember binding = "  \"" ++ binding.1.name ++ "\": " ++ Layout.json.render binding.2 := by
  have closing : "\"" ++ ": " = "\": " := rfl
  rw [jsonMember, Variable.toJson]
  simp only [String.append_assoc, ← closing]
  rfl

/-- A member of a report in JSON tells its binding. -/
theorem tellsInJson_jsonMember (binding : Variable × Float) :
    TellsInJson binding (jsonMember binding) :=
  ⟨_, Layout.jsonText_render binding.2, jsonMember_eq binding⟩

/-- A report prints its bindings, in the format that is asked for. -/
theorem prints_printed (options : Options) (shown : List (Variable × Float)) :
    Prints shown options.json (options.printed shown) := by
  unfold Options.printed
  cases options.json with
  | false =>
    refine .text (List.forall₂_map_right_iff.mpr (List.forall₂_same.mpr fun binding _ => ?_))
    exact tellsInText_reportLine binding
  | true =>
    refine .json (List.forall₂_map_right_iff.mpr (List.forall₂_same.mpr fun binding _ => ?_))
    exact tellsInJson_jsonMember binding

/-- The first line of text tells the first binding, and the other ones are printed behind it. -/
theorem Prints.text_cons {binding : Variable × Float} {others : List (Variable × Float)}
    {output : String} (prints : Prints (binding :: others) false output) :
    ∃ text rest, PlainText binding.2 text ∧ Prints others false rest ∧
      output = binding.1.name ++ " = " ++ text ++ "\n" ++ rest := by
  cases prints with
  | text told =>
    cases told with
    | cons first later =>
      obtain ⟨text, tells, rfl⟩ := first
      exact ⟨text, _, tells, .text later, by simp [unlines]⟩

/-- The first member of a JSON object tells the first binding, and a comma or the end follows. -/
theorem Prints.json_cons {binding : Variable × Float} {others : List (Variable × Float)}
    {output : String} (prints : Prints (binding :: others) true output) :
    ∃ text rest, JsonText binding.2 text ∧ (rest = "\n\x7d\n" ∨ ∃ later, rest = ",\n" ++ later) ∧
      output = "\x7b\n  \"" ++ binding.1.name ++ "\": " ++ text ++ rest := by
  have opening : "\x7b\n" ++ "  \"" = "\x7b\n  \"" := rfl
  cases prints with
  | json told =>
    cases told with
    | cons first later =>
      obtain ⟨text, tells, rfl⟩ := first
      cases later with
      | nil =>
        refine ⟨text, "\n\x7d\n", tells, Or.inl rfl, ?_⟩
        rw [String.intercalate_singleton]
        simp only [← String.append_assoc, opening]
      | @cons _ next _ members _ more =>
        refine ⟨text, ",\n" ++ (String.intercalate ",\n" (next :: members) ++ "\n\x7d\n"), tells,
          Or.inr ⟨_, rfl⟩, ?_⟩
        rw [String.intercalate_cons_cons]
        simp only [← String.append_assoc, opening]

end TwoBody
