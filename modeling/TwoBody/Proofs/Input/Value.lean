import TwoBody.Input.Value

/-! Values: the exact name of a constant stands for it, and any other text has to be a number. -/

namespace TwoBody

/-- The name of a constant is not the text of a number. -/
theorem readFloat?_of_mem_constants :
    ∀ entry ∈ namedGms ++ namedHeights, readFloat? (trim entry.1.toList) = none := by
  -- There are five names to try.
  have checked : (namedGms ++ namedHeights).all fun entry =>
      (readFloat? (trim entry.1.toList)).isNone := by
    decide +kernel
  intro entry member
  exact Option.isNone_iff_eq_none.mp (List.all_eq_true.mp checked entry member)

/-- The name of a constant stands for it, if no other constant has the same name. -/
theorem readConstantOr_of_mem {constants : Constants} (distinct : (constants.map Prod.fst).Nodup)
    {text : String} {value : Float} (listed : (text, value) ∈ constants) :
    readConstantOr constants text = .ok value := by
  -- The search finds the constant itself, because those before it have other names.
  obtain ⟨before, behind, rfl⟩ := List.append_of_mem listed
  have others : ∀ entry ∈ before, (text != entry.1) = true := by
    intro entry member
    refine bne_iff_ne.mpr fun same => ?_
    rw [List.map_append, List.map_cons] at distinct
    exact (List.nodup_append.mp distinct).2.2 entry.1 (List.mem_map_of_mem member) text
      List.mem_cons_self same.symm
  rw [readConstantOr, List.lookup_eq_some_iff.mpr ⟨before, behind, rfl, others⟩]

/-- A text that is no name of a constant has to be a number. -/
theorem readConstantOr_of_unlisted {constants : Constants} {text : String}
    (unlisted : ∀ entry ∈ constants, entry.1 ≠ text) :
    readConstantOr constants text = readNumber text := by
  have unnamed : constants.lookup text = none :=
    List.lookup_eq_none_iff.mpr fun entry member => bne_iff_ne.mpr (unlisted entry member).symm
  rw [readConstantOr, unnamed]

/-- Where constants are allowed as well, a number is read as a number. -/
theorem readConstantOr_of_number {constants : Constants}
    (listed : ∀ entry ∈ constants, entry ∈ namedGms ++ namedHeights) {text : String}
    {value : Float} (number : readFloat? (trim text.toList) = some value) :
    readConstantOr constants text = .ok value := by
  have unlisted : ∀ entry ∈ constants, entry.1 ≠ text := by
    -- The text would be a number and the name of a constant at once.
    rintro entry member rfl
    rw [readFloat?_of_mem_constants entry (listed entry member)] at number
    exact absurd number (by simp)
  rw [readConstantOr_of_unlisted unlisted, readNumber, number]

/-- Gravitational parameters come before heights, but no text is read as both. -/
theorem readValue_eq (text : String) :
    readValue text = readConstantOr (namedGms ++ namedHeights) text := by
  simp only [readValue, readGm, readHeight, readConstantOr, List.lookup_append]
  cases namedGms.lookup text with
  | some value => rfl
  | none =>
    cases height : namedHeights.lookup text with
    | none =>
      -- Without a constant, both readers fall back on the number.
      simp only [Option.or_none]
      cases readNumber text <;> rfl
    | some value =>
      -- The first reader takes the name of a height for a malformed number.
      obtain ⟨before, behind, split, -⟩ := List.lookup_eq_some_iff.mp height
      have member : (text, value) ∈ namedGms ++ namedHeights := by simp [split]
      have unread := readFloat?_of_mem_constants (text, value) member
      simp [readNumber, unread]

/-- A number is read as a value. -/
theorem readValue_of_number {text : String} {value : Float}
    (number : readFloat? (trim text.toList) = some value) : readValue text = .ok value := by
  rw [readValue_eq, readConstantOr_of_number (fun _ member => member) number]

end TwoBody
