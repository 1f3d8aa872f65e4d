import Mathlib.Data.Nat.Init
import TwoBody.Input.Error

/-! Messages: whatever text is at fault, the text that reports it is a single line. -/

namespace TwoBody

/-- No number is written with a line feed. -/
theorem newline_not_mem_toDigits {base : Nat} (positional : 1 < base) (number : Nat) :
    '\n' ∉ Nat.toDigits base number := by
  have digit (value : Nat) : '\n' ≠ Nat.digitChar value :=
    (Nat.digitChar_ne '\n' (by decide)).symm
  -- The induction takes the last digit away.
  induction number using Nat.strongRecOn with
  | ind number ih =>
    by_cases single : number < base
    · rw [Nat.toDigits_of_lt_base single, List.mem_singleton]
      exact digit number
    · have bounded : base ≤ number := Nat.le_of_not_lt single
      have smaller : number / base < number := Nat.div_lt_self (by omega) positional
      rw [Nat.toDigits_of_base_le positional bounded, List.mem_append, List.mem_singleton, not_or]
      exact ⟨ih _ smaller, digit _⟩

/-- A quoted character is not written with a line feed. -/
theorem newline_not_mem_quotedChar (character : Char) : '\n' ∉ quotedChar character := by
  unfold quotedChar
  split
  case h_7 _ _ _ newline _ _ =>
    -- A character that can be seen stands for itself, and any other is given by its number.
    split
    · simpa [codePoint] using newline_not_mem_toDigits (by decide : 1 < 16) character.toNat
    · simpa using Ne.symm newline
  all_goals decide

/-- A quoted text is a single line, even if the text itself is not. -/
theorem newline_not_mem_quoted (text : String) : '\n' ∉ (quoted text).toList := by
  simp [quoted, newline_not_mem_quotedChar]

/-- Two single lines make up a single line. -/
theorem newline_not_mem_append {front back : String} (before : '\n' ∉ front.toList)
    (behind : '\n' ∉ back.toList) : '\n' ∉ (front ++ back).toList := by
  simp [before, behind]

/-- The text that reports a fault is a single line. -/
theorem InputError.newline_not_mem_message (error : InputError) :
    '\n' ∉ error.message.toList := by
  -- What it says itself has no line feed, and everything else is quoted or a number.
  cases error with
  | unknownVariable text | missingSeparator text | invalidNumber text | emptyOperand text =>
    exact newline_not_mem_append (by decide) (newline_not_mem_quoted text)
  | insertionArguments count =>
    have number : '\n' ∉ (inspect count).toList := by
      simpa [inspect] using newline_not_mem_toDigits (by decide : 1 < 10) count
    exact newline_not_mem_append (newline_not_mem_append (by decide) number) (by decide)

end TwoBody
