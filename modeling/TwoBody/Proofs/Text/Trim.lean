import Mathlib.Data.List.TakeWhile
import TwoBody.Text.Blank

/-! Trimming: a text without white space is what is left of it with white space around it. -/

namespace TwoBody

/-- No character of the text is white space. -/
def NoBlank (text : List Char) : Prop :=
  -- The empty text is one of these.
  ∀ character ∈ text, isBlank character = false

instance (text : List Char) : Decidable (NoBlank text) :=
  List.decidableBAll (fun character => isBlank character = false) text

@[simp] theorem noBlank_nil : NoBlank [] :=
  List.forall_mem_nil _

@[simp] theorem noBlank_cons {character : Char} {text : List Char} :
    NoBlank (character :: text) ↔ isBlank character = false ∧ NoBlank text :=
  List.forall_mem_cons

@[simp] theorem noBlank_append {front back : List Char} :
    NoBlank (front ++ back) ↔ NoBlank front ∧ NoBlank back :=
  List.forall_mem_append

/-- A decimal digit is not white space. -/
theorem isBlank_of_isDigit {character : Char} (digit : character.isDigit) :
    isBlank character = false := by
  have bounds : 48 ≤ character.toNat ∧ character.toNat ≤ 57 := by
    simpa [Char.isDigit, UInt32.le_iff_toNat_le] using digit
  -- No range of white space reaches between the digits.
  simp only [isBlank, blankRanges, List.any_cons, List.any_nil, Bool.or_false, Bool.or_eq_false_iff,
    Bool.and_eq_false_iff, decide_eq_false_iff_not]
  omega

/-- A text of decimal digits has no white space. -/
theorem noBlank_of_isDigit {text : List Char} (digits : ∀ character ∈ text, character.isDigit) :
    NoBlank text :=
  fun character member => isBlank_of_isDigit (digits character member)

/-- Nothing is dropped from a text that begins with no white space. -/
theorem dropWhile_isBlank {text : List Char} (solid : NoBlank text) :
    text.dropWhile isBlank = text := by
  cases text with
  | nil => rfl
  | cons first rest => exact List.dropWhile_cons_of_neg (by simp [(noBlank_cons.mp solid).1])

/-- Trimming leaves a text without white space as it is. -/
theorem trim_of_noBlank {text : List Char} (solid : NoBlank text) : trim text = text := by
  have reversed : NoBlank text.reverse :=
    fun character member => solid character (List.mem_reverse.mp member)
  rw [trim, dropWhile_isBlank solid, dropWhile_isBlank reversed, List.reverse_reverse]

/-- White space in front of a text does not matter to what is left of it. -/
theorem trim_blank_append {front : List Char} (blank : ∀ character ∈ front, isBlank character)
    (text : List Char) : trim (front ++ text) = trim text := by
  rw [trim, List.dropWhile_append_of_pos blank, trim]

/-- White space behind a text does not matter to what is left of it. -/
theorem trim_append_blank (text : List Char) {back : List Char}
    (blank : ∀ character ∈ back, isBlank character) : trim (text ++ back) = trim text := by
  have last : ∀ character ∈ back.reverse, isBlank character :=
    fun character member => blank character (List.mem_reverse.mp member)
  rw [trim, trim, List.dropWhile_append]
  split
  · -- The text is white space as well, so nothing is left of both.
    rename_i empty
    rw [List.isEmpty_iff.mp empty, List.dropWhile_eq_nil_iff.mpr blank]
  · rw [List.reverse_append, List.dropWhile_append_of_pos last]

/-- Trimming takes away the white space on both sides of a text that has none. -/
theorem trim_surrounded {front text back : List Char}
    (before : ∀ character ∈ front, isBlank character) (solid : NoBlank text)
    (after : ∀ character ∈ back, isBlank character) : trim (front ++ text ++ back) = text := by
  rw [trim_append_blank _ after, trim_blank_append before, trim_of_noBlank solid]

/-- Dropping white space at the front does not change what is left in the end. -/
@[simp] theorem trim_dropWhile (text : List Char) : trim (text.dropWhile isBlank) = trim text := by
  have front : ∀ character ∈ text.takeWhile isBlank, isBlank character :=
    fun _ member => List.mem_takeWhile_imp member
  rw [← trim_blank_append front, List.takeWhile_append_dropWhile]

/-- Dropping white space at the back does not change what is left in the end. -/
@[simp] theorem trim_reverse_dropWhile (text : List Char) :
    trim (text.reverse.dropWhile isBlank).reverse = trim text := by
  have behind : ∀ character ∈ (text.reverse.takeWhile isBlank).reverse, isBlank character :=
    fun _ member => List.mem_takeWhile_imp (List.mem_reverse.mp member)
  rw [← trim_append_blank _ behind, ← List.reverse_append, List.takeWhile_append_dropWhile,
    List.reverse_reverse]

/-- At the latest, dropping stops at a character that is no white space. -/
theorem dropWhile_append_cons {character : Char} (solid : isBlank character = false)
    (front back : List Char) :
    (front ++ character :: back).dropWhile isBlank =
      front.dropWhile isBlank ++ character :: back := by
  rw [List.dropWhile_append]
  split
  · -- All of the front is dropped, but not the character behind it.
    rename_i empty
    rw [List.isEmpty_iff.mp empty, List.dropWhile_cons_of_neg (by simp [solid]), List.nil_append]
  · rfl

/-- Around a character that is no white space, a text is trimmed on either side of it. -/
theorem trim_append_cons {character : Char} (solid : isBlank character = false)
    (front back : List Char) :
    trim (front ++ character :: back) =
      front.dropWhile isBlank ++ character :: (back.reverse.dropWhile isBlank).reverse := by
  -- Dropping stops at the character from either side.
  rw [trim, dropWhile_append_cons solid, List.reverse_append, List.reverse_cons, List.append_assoc,
    List.singleton_append, dropWhile_append_cons solid, List.reverse_append, List.reverse_cons,
    List.reverse_reverse, List.append_assoc, List.singleton_append]

/-- A character that is no white space is left in the text. -/
theorem mem_trim_of_mem {character : Char} (solid : isBlank character = false) {text : List Char}
    (member : character ∈ text) : character ∈ trim text := by
  obtain ⟨front, back, rfl⟩ := List.append_of_mem member
  rw [trim_append_cons solid]
  simp

/-- Nothing is left of a text exactly if all of it is white space. -/
theorem trim_eq_nil_iff {text : List Char} : trim text = [] ↔ text.all isBlank := by
  rw [trim, List.reverse_eq_nil_iff, List.dropWhile_eq_nil_iff, List.all_eq_true]
  constructor
  · -- What is dropped at the front is white space, and so is what is left of the text behind it.
    intro rest character member
    rw [← List.takeWhile_append_dropWhile (p := isBlank) (l := text)] at member
    rcases List.mem_append.mp member with front | behind
    · exact List.mem_takeWhile_imp front
    · exact rest character (List.mem_reverse.mpr behind)
  · intro blank character member
    exact blank character ((List.dropWhile_sublist isBlank).subset (List.mem_reverse.mp member))

end TwoBody
