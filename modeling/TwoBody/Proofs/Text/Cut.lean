import TwoBody.Text.Cut

/-! Cutting: the pieces of a text, and what cutting them again at more separators gives. -/

namespace TwoBody

variable {α : Type} {separates coarse fine : α → Bool}

/-- Cutting a text is splitting it at the elements that separate. -/
theorem cut_eq_splitOnP (text : List α) : cut separates text = text.splitOnP separates := by
  induction text with
  | nil => rfl
  | cons head rest ih => rw [cut, List.splitOnP_cons_eq_if_modifyHead, ih]

/-- A text without separators is its only piece. -/
theorem cut_of_forall_not {text : List α} (solid : ∀ element ∈ text, separates element = false) :
    cut separates text = [text] := by
  rw [cut_eq_splitOnP, List.splitOnP_eq_singleton solid]

/-- A piece has no separators, and otherwise a part of what is in the text, in order. -/
theorem sublist_of_mem_cut {text piece : List α} (member : piece ∈ cut separates text) :
    piece.Sublist (text.filter fun element => !separates element) := by
  induction text generalizing piece with
  | nil =>
    rw [List.mem_singleton.mp member]
    exact .refl []
  | cons head rest ih =>
    obtain ⟨first, others, pieces⟩ := List.exists_cons_of_ne_nil (cut_ne_nil separates rest)
    rw [cut, pieces] at member
    rw [pieces] at ih
    by_cases here : separates head
    · -- The first piece is empty, and the others are those of the rest.
      rw [if_pos here] at member
      rw [List.filter_cons_of_neg (by simp [here])]
      rcases List.mem_cons.mp member with rfl | member
      · exact List.nil_sublist _
      · exact ih member
    · -- The first element joins the first piece of the rest.
      rw [if_neg here, List.modifyHead_cons] at member
      rw [List.filter_cons_of_pos (by simp [here])]
      rcases List.mem_cons.mp member with rfl | member
      · exact (ih List.mem_cons_self).cons_cons head
      · exact (ih (List.mem_cons_of_mem first member)).cons head

/-- The first piece ends at the first separator. -/
theorem cut_append_cons {piece : List α} (solid : ∀ element ∈ piece, separates element = false)
    {separator : α} (separated : separates separator) (rest : List α) :
    cut separates (piece ++ separator :: rest) = piece :: cut separates rest := by
  rw [cut_eq_splitOnP, cut_eq_splitOnP,
    List.splitOnP_append_cons_of_forall_mem solid separator separated]

/-- Cutting all pieces at more separators is cutting the text at these. -/
theorem cut_eq_flatMap_cut (finer : ∀ element, coarse element → fine element) (text : List α) :
    cut fine text = (cut coarse text).flatMap (cut fine) := by
  induction text with
  | nil => rfl
  | cons head rest ih =>
    obtain ⟨first, others, pieces⟩ := List.exists_cons_of_ne_nil (cut_ne_nil coarse rest)
    rw [pieces, List.flatMap_cons] at ih
    by_cases here : coarse head
    · -- The text is cut here, and so is the piece that begins here.
      simp only [cut, here, finer head here, if_true, pieces, List.flatMap_cons, ih]
      rfl
    · -- The first element joins the first piece, where it may separate after all.
      simp only [cut, here, Bool.false_eq_true, if_false, pieces, List.modifyHead_cons,
        List.flatMap_cons, ih]
      by_cases within : fine head
      · simp [within]
      · simp only [within, Bool.false_eq_true, if_false]
        obtain ⟨start, more, parts⟩ := List.exists_cons_of_ne_nil (cut_ne_nil fine first)
        rw [parts]
        rfl

end TwoBody
