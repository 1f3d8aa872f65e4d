import TwoBody.Orbit.Report
import TwoBody.Proofs.Input.Binding
import TwoBody.Proofs.Input.Value
import TwoBody.Proofs.Number.Plain

/-! Result lines: a report has one for each known variable, which is read as its binding. -/

namespace TwoBody

open Orbit Std

namespace Orbit

/-- The entries of a report are the known bindings. -/
theorem mem_entries {known : Bindings Variable Float} {binding : Variable × Float} :
    binding ∈ entries known ↔ known[binding.1]? = some binding.2 := by
  obtain ⟨symbol, value⟩ := binding
  simp [entries]

/-- The variables of a report are the known ones, in the order of all variables. -/
theorem map_fst_entries (known : Bindings Variable Float) :
    (entries known).map Prod.fst = Variable.all.filter fun symbol => symbol ∈ known := by
  rw [entries, List.map_filterMap, ← List.filterMap_eq_filter]
  congr 1
  funext symbol
  by_cases member : symbol ∈ known
  · simp [member, Option.guard]
  · simp [member, Option.guard]

/-- No variable occurs twice in a report. -/
theorem nodup_map_fst_entries (known : Bindings Variable Float) :
    ((entries known).map Prod.fst).Nodup := by
  rw [map_fst_entries]
  exact (by decide : Variable.all.Nodup).filter _

/-- The list of all variables is in their order. -/
theorem Variable.pairwise_all : all.Pairwise fun first second => compare first second = .lt := by
  decide

/-- A report walks through all variables, and finds the bindings as the map lists them. -/
theorem entries_eq_toList (known : Bindings Variable Float) : entries known = known.toList := by
  -- Both lists are in the order of the variables, which tells different bindings apart.
  have listed : (entries known).Pairwise fun first second => compare first.1 second.1 = .lt := by
    have names : ((entries known).map Prod.fst).Pairwise fun first second =>
        compare first second = .lt := by
      rw [map_fst_entries]
      exact Variable.pairwise_all.filter _
    exact List.pairwise_map.mp names
  have mapped := known.ordered_keys_toList
  have apart {first second : Variable × Float} (before : compare first.1 second.1 = .lt) :
      first ≠ second := by
    rintro rfl
    exact absurd before (by simp)
  have same : (entries known).Perm known.toList := by
    refine (List.perm_ext_iff_of_nodup (listed.imp apart) (mapped.imp apart)).mpr fun binding => ?_
    rw [mem_entries]
    exact ExtTreeMap.mem_toList_iff_getElem?_eq_some.symm
  refine same.eq_of_pairwise (fun first second _ _ before behind => ?_) listed mapped
  exact absurd behind (OrientedCmp.not_lt_of_lt before)

/-- The names of variables have no white space. -/
theorem Variable.noBlank_name (symbol : Variable) : NoBlank symbol.name.toList := by
  cases symbol <;> decide

/-- The names of variables have no separators. -/
theorem Variable.isSeparator_of_mem_name (symbol : Variable) :
    ∀ character ∈ symbol.name.toList, isSeparator character = false := by
  have checked : symbol.name.toList.all (fun character => !isSeparator character) := by
    cases symbol <;> decide
  simpa using checked

/-- The characters of a result line: a blank stands on both sides of the separator. -/
theorem toList_reportLine (binding : Variable × Float) :
    (reportLine binding).toList =
      (binding.1.name.toList ++ [' ']) ++ '=' :: ' ' :: (Layout.plain.render binding.2).toList := by
  simp [reportLine]

/-- A result line is read as its binding if its number is read back. -/
theorem readBinding_reportLine {binding : Variable × Float} (readsBack : ReadsBack binding.2) :
    readBinding (reportLine binding) = .ok binding := by
  obtain ⟨symbol, value⟩ := binding
  have plain : ∀ character ∈ symbol.name.toList ++ [' '], isSeparator character = false :=
    List.forall_mem_append.mpr
      ⟨symbol.isSeparator_of_mem_name, List.forall_mem_singleton.mpr (by decide)⟩
  -- Trimming leaves the name and the number, which have no white space.
  have blank : ∀ character ∈ [' '], isBlank character :=
    List.forall_mem_singleton.mpr (by decide)
  have name : trim (symbol.name.toList ++ [' ']) = symbol.name.toList := by
    simpa using trim_surrounded (List.forall_mem_nil _) symbol.noBlank_name blank
  have solid := noBlank_plain_render value
  have number : trim (' ' :: (Layout.plain.render value).toList) =
      (Layout.plain.render value).toList := by
    simpa using trim_surrounded blank solid (List.forall_mem_nil _)
  have named : readVariable (String.ofList (trim (symbol.name.toList ++ [' ']))) = .ok symbol := by
    rw [name, String.ofList_toList, readVariable, Variable.ofName?_name]
  have valued : readValue (String.ofList (trim (' ' :: (Layout.plain.render value).toList))) =
      .ok value := by
    rw [number, String.ofList_toList]
    refine readValue_of_number ?_
    rw [trim_of_noBlank solid]
    exact readsBack
  rw [readBinding_of_split (toList_reportLine (symbol, value)) plain (by decide), named, valued]
  rfl

/-- A result line is a single line. -/
theorem newline_not_mem_reportLine (binding : Variable × Float) :
    '\n' ∉ (reportLine binding).toList := by
  intro member
  rw [toList_reportLine] at member
  have newline : isBlank '\n' = true := by decide
  have name := binding.1.noBlank_name '\n'
  have number := noBlank_plain_render binding.2 '\n'
  -- Neither the name nor the number has this character, and the separator and blanks differ.
  simp_all

end Orbit

end TwoBody
