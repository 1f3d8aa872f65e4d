import TwoBody.Text.Blank

/-! Cutting text into the pieces between separators. -/

namespace TwoBody

/-- The pieces between the elements that separate them; there is always one more than those. -/
def cut {α : Type} (separates : α → Bool) : List α → List (List α)
  | [] => [[]]
  | head :: rest =>
    if separates head then [] :: cut separates rest
    else (cut separates rest).modifyHead (head :: ·)

/-- Cutting leaves at least one piece. -/
theorem cut_ne_nil {α : Type} (separates : α → Bool) (text : List α) :
    cut separates text ≠ [] := by
  -- The last element either closes a piece or joins the one behind it.
  induction text with
  | nil => simp [cut]
  | cons head rest ih =>
    simp only [cut]
    split
    · simp
    · simpa using ih

/-- A piece and all separators together are at most as long as the text. -/
theorem length_add_countP_le {α : Type} {separates : α → Bool} {text piece : List α}
    (member : piece ∈ cut separates text) :
    piece.length + text.countP separates ≤ text.length := by
  -- No separator is part of a piece, and the first element joins only the first piece.
  induction text generalizing piece with
  | nil => simp_all [cut]
  | cons head rest ih =>
    simp only [cut] at member
    split at member
    · rename_i here
      rw [List.countP_cons_of_pos here, List.length_cons]
      rcases List.mem_cons.mp member with empty | inner
      · have := List.countP_le_length (p := separates) (l := rest)
        simp only [empty, List.length_nil]
        omega
      · have := ih inner
        omega
    · rename_i other
      rw [List.countP_cons_of_neg other, List.length_cons]
      cases pieces : cut separates rest with
      | nil => exact absurd pieces (cut_ne_nil separates rest)
      | cons first others =>
        rw [pieces] at ih member
        rcases List.mem_cons.mp member with extended | inner
        · have := ih (List.mem_cons_self ..)
          simp only [extended, List.length_cons]
          omega
        · have := ih (List.mem_cons_of_mem first inner)
          omega

/-- Each piece of a text with a separator is shorter than the text. -/
theorem length_lt_of_mem_cut {α : Type} {separates : α → Bool} {text piece : List α}
    (separated : text.any separates) (member : piece ∈ cut separates text) :
    piece.length < text.length := by
  -- The text is longer than the piece by at least that separator.
  have bounded := length_add_countP_le member
  have positive : 0 < text.countP separates := by
    simpa [List.countP_pos_iff] using separated
  omega

/-- The words of a text: its longest pieces without white space. -/
def words (text : List Char) : List (List Char) :=
  (cut isBlank text).filter fun piece => !piece.isEmpty

end TwoBody
