import TwoBody.Orbit.System
import TwoBody.Proofs.Input.ResultLine

/-!
Reports: reading every line of a report gives back the bindings that it reports.

The reader trims, cuts at the first separator, looks up names and tries constants before numbers.
None of that gets in the way of what the writer lays out with blanks around an equals sign.
-/

namespace TwoBody

open Orbit Std

/-- The lines of a text, cut at its line feeds; an empty text has none. -/
def textLines (text : String) : List String :=
  if text = "" then [] else (text.toList.splitOn '\n').map String.ofList

/-- Lines that are divided by line feeds are the lines of the whole text. -/
theorem textLines_intercalate {written : List String}
    (single : ∀ line ∈ written, line ≠ "" ∧ '\n' ∉ line.toList) :
    textLines (String.intercalate "\n" written) = written := by
  cases written with
  | nil => rfl
  | cons first rest =>
    have whole : (String.intercalate "\n" (first :: rest)).toList =
        ['\n'].intercalate ((first :: rest).map String.toList) := by
      rw [String.toList_intercalate]
      rfl
    -- The text is not empty, as already its first line is not.
    have some : String.intercalate "\n" (first :: rest) ≠ "" := by
      intro empty
      obtain ⟨nonempty, -⟩ := single first List.mem_cons_self
      cases rest with
      | nil => exact nonempty (by simpa using empty)
      | cons next others =>
        rw [String.intercalate_cons_cons] at empty
        simp at empty
    have apart : ∀ line ∈ (first :: rest).map String.toList, '\n' ∉ line :=
      List.forall_mem_map.mpr fun line member => (single line member).2
    rw [textLines, if_neg some, whole, List.splitOn_intercalate '\n' apart (by simp), List.map_map]
    -- Taking texts apart into characters and putting them together again changes nothing.
    simp

/-- A result line has its name at least. -/
theorem Orbit.reportLine_ne_empty (binding : Variable × Float) : reportLine binding ≠ "" := by
  intro empty
  have none : (reportLine binding).toList = [] := by rw [empty]; rfl
  rw [toList_reportLine] at none
  simp at none

/--
A report is read back as what it reports.

Whatever the formulas of a system are and whatever it knows, each line of its report is read as a
binding. The bindings of all lines, in order, are the known ones, each of them once and in the order
of the variables. All that is assumed is that the known numbers are read back from their own text.
-/
theorem readBinding_report (system : System Variable Float)
    (readsBack : ∀ (symbol : Variable) (value : Float), system.known[symbol]? = some value →
      ReadsBack value) :
    (textLines (report system.known)).map readBinding = system.known.toList.map .ok ∧
    system.known.toList.Pairwise fun first second => first.1.rank < second.1.rank := by
  constructor
  · have single : ∀ line ∈ (entries system.known).map reportLine, line ≠ "" ∧ '\n' ∉ line.toList :=
      List.forall_mem_map.mpr fun binding _ =>
        ⟨reportLine_ne_empty binding, newline_not_mem_reportLine binding⟩
    rw [report, textLines_intercalate single, List.map_map, ← entries_eq_toList]
    -- Each line is read by itself.
    refine List.map_congr_left fun binding member => ?_
    exact readBinding_reportLine (readsBack _ _ (mem_entries.mp member))
  · exact system.known.ordered_keys_toList.imp Nat.compare_eq_lt.mp

/-- Numbers with a sign of their own, and some that are not finite or not numbers at all. -/
theorem readBinding_report_special :
    let known : Bindings Variable Float := .ofList
      [(.semiMajorAxis, 1e-7), (.eccentricity, -0.0), (.gm, 0 / 0), (.apoRadius, -(1 / 0))]
    let system : System Variable Float := ⟨known, [apsisSum.toFormula]⟩
    (∀ (symbol : Variable) (value : Float), system.known[symbol]? = some value →
      ReadsBack value) ∧
    report known = "GM = NaN\nRa = -inf\ne = -0\na = 0.0000001" ∧
    (textLines (report known)).map readBinding =
      [.ok (.gm, 0 / 0), .ok (.apoRadius, -(1 / 0)), .ok (.eccentricity, -0.0),
        .ok (.semiMajorAxis, 1e-7)] := by
  intro known system
  have listed : known.toList = [(.gm, 0 / 0), (.apoRadius, -(1 / 0)), (.eccentricity, -0.0),
      (.semiMajorAxis, 1e-7)] := by decide +kernel
  have checked : ∀ binding ∈ known.toList, ReadsBack binding.2 := by
    rw [listed]
    decide +kernel
  have readsBack : ∀ (symbol : Variable) (value : Float), system.known[symbol]? = some value →
      ReadsBack value := fun symbol value found =>
    checked (symbol, value) (ExtTreeMap.mem_toList_iff_getElem?_eq_some.mpr found)
  refine ⟨readsBack, by decide +kernel, (readBinding_report system readsBack).1.trans ?_⟩
  exact congrArg (List.map Except.ok) listed

end TwoBody
