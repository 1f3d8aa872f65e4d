import TwoBody.Proofs.Text.Cut
import TwoBody.Proofs.Text.Trim

/-! Words: what stands in a text between white space. -/

namespace TwoBody

/-- The words of a text are those before and those behind any white space in it. -/
theorem words_append_cons {character : Char} (blank : isBlank character) (front back : List Char) :
    words (front ++ character :: back) = words front ++ words back := by
  -- The text is cut there, and the empty pieces on either side are no words.
  simp only [words, cut_eq_splitOnP]
  rw [List.splitOnP_append_cons front back blank, List.filter_append]

/-- White space at the start of a text belongs to no word. -/
theorem words_cons {character : Char} (blank : isBlank character) (text : List Char) :
    words (character :: text) = words text :=
  words_append_cons blank [] text

/-- White space in front of a text adds no word. -/
theorem words_blank_append {gap : List Char} (blank : ∀ character ∈ gap, isBlank character)
    (text : List Char) : words (gap ++ text) = words text := by
  induction gap with
  | nil => rfl
  | cons character rest ih =>
    obtain ⟨first, others⟩ := List.forall_mem_cons.mp blank
    rw [List.cons_append, words_cons first, ih others]

/-- A text without white space is a word. -/
theorem words_of_noBlank {word : List Char} (nonempty : word ≠ []) (solid : NoBlank word) :
    words word = [word] := by
  rw [words, cut_of_forall_not solid]
  simp [nonempty]

/--
The words stand in the text in order.

There is white space between any two of them, and there may be more of it at both ends.
-/
inductive Spaced : List String → List Char → Prop where
  /-- Without words, there is nothing but white space. -/
  | nil {gap : List Char} (blank : ∀ character ∈ gap, isBlank character) : Spaced [] gap
  /-- A word ends at the end of the text or at white space. -/
  | cons {gap text : List Char} {word : String} {words : List String}
    (blank : ∀ character ∈ gap, isBlank character)
    (apart : ∀ character ∈ text.head?, isBlank character) (rest : Spaced words text) :
    Spaced (word :: words) (gap ++ word.toList ++ text)

/-- Words that stand in a text are the words of the text. -/
theorem words_of_spaced {text : List Char} {list : List String} (spaced : Spaced list text)
    (solid : ∀ word ∈ list, word ≠ "" ∧ NoBlank word.toList) :
    words text = list.map String.toList := by
  -- The induction is on the words; behind each of them is the end or white space.
  induction spaced with
  | nil blank => simpa [words, cut] using words_blank_append blank []
  | @cons gap text word words blank apart rest ih =>
    obtain ⟨⟨nonempty, first⟩, others⟩ := List.forall_mem_cons.mp solid
    have single : TwoBody.words word.toList = [word.toList] :=
      words_of_noBlank (by simpa using nonempty) first
    rw [List.append_assoc, words_blank_append blank, List.map_cons, ← ih others,
      ← List.singleton_append, ← single]
    cases text with
    | nil => simp [TwoBody.words, cut]
    | cons character behind =>
      have space : isBlank character := apart character rfl
      rw [words_append_cons space, words_cons space]

end TwoBody
