import TwoBody.Number.Numeral
import TwoBody.Proofs.Text.Trim

/-! Numerals: a text that is read as a floating-point number has no white space. -/

namespace TwoBody

/-- White space is no capital letter, so it stays as it is in lower case. -/
theorem isBlank_toLower {character : Char} (blank : isBlank character) :
    isBlank character.toLower := by
  -- No range of white space reaches between the capital letters.
  have small : ¬ (65 ≤ character.toNat ∧ character.toNat ≤ 90) := by
    simp only [isBlank, blankRanges, List.any_cons, List.any_nil, Bool.or_false, Bool.or_eq_true,
      Bool.and_eq_true, decide_eq_true_eq] at blank
    omega
  unfold Char.toLower
  split
  · rename_i capital
    exact absurd (by simpa [UInt32.le_iff_toNat_le] using capital) small
  · exact blank

namespace Numeral

/-- A text in which some mixture of cases writes a word without white space has none either. -/
theorem noBlank_of_map_toLower {text : List Char} {word : String} (solid : NoBlank word.toList)
    (written : String.ofList (text.map Char.toLower) = word) : NoBlank text := by
  -- White space in the text would be in the word as well, because lower case keeps it.
  intro character member
  by_contra blank
  have lower : character.toLower ∈ word.toList := by
    rw [← written, String.toList_ofList]
    exact List.mem_map_of_mem member
  have still := isBlank_toLower (by simpa using blank)
  rw [solid _ lower] at still
  exact absurd still (by simp)

/-- A natural number is written without white space. -/
theorem noBlank_of_natural? {text : List Char} {size : Nat} (read : natural? text = some size) :
    NoBlank text := by
  rw [natural?] at read
  split at read
  · rename_i digits
    exact noBlank_of_isDigit (List.all_eq_true.mp digits.2)
  · exact absurd read (by simp)

/-- An exponent is written without white space. -/
theorem noBlank_of_exponent? {text : List Char} {exponent : Int}
    (read : exponent? text = some exponent) : NoBlank text := by
  -- There is none, or a mark with digits behind it, which may have a sign.
  unfold exponent? at read
  split at read
  · exact noBlank_nil
  · rename_i mark rest
    split at read
    · rename_i letter
      have solid : isBlank mark = false := by
        rcases letter with rfl | rfl <;> decide
      refine noBlank_cons.mpr ⟨solid, ?_⟩
      split at read
      all_goals
        obtain ⟨size, converted, -⟩ := Option.map_eq_some_iff.mp read
        obtain ⟨count, read, -⟩ := Option.bind_eq_some_iff.mp converted
      · exact noBlank_cons.mpr ⟨by decide, noBlank_of_natural? read⟩
      · exact noBlank_cons.mpr ⟨by decide, noBlank_of_natural? read⟩
      · exact noBlank_of_natural? read
    · exact absurd read (by simp)

/-- Digits at the start of a text have no white space. -/
theorem noBlank_takeWhile_isDigit (text : List Char) : NoBlank (text.takeWhile Char.isDigit) :=
  noBlank_of_isDigit fun _ member => List.mem_takeWhile_imp member

/-- A decimal number is written without white space. -/
theorem noBlank_of_decimal? {text : List Char} {numeral : Numeral}
    (read : decimal? text = some numeral) : NoBlank text := by
  unfold decimal? at read
  dsimp only at read
  rw [← List.takeWhile_append_dropWhile (p := Char.isDigit) (l := text)]
  refine noBlank_append.mpr ⟨noBlank_takeWhile_isDigit text, ?_⟩
  -- Behind the whole digits there is a fraction with its point, or the exponent at once.
  split at read
  · rename_i after point
    obtain ⟨-, read⟩ := ite_eq_iff.mp read |>.resolve_left (by simp)
    obtain ⟨exponent, tail, -⟩ := Option.map_eq_some_iff.mp read
    rw [point, ← List.takeWhile_append_dropWhile (p := Char.isDigit) (l := after)]
    exact noBlank_cons.mpr ⟨by decide, noBlank_append.mpr
      ⟨noBlank_takeWhile_isDigit after, noBlank_of_exponent? tail⟩⟩
  · obtain ⟨-, read⟩ := ite_eq_iff.mp read |>.resolve_left (by simp)
    obtain ⟨exponent, tail, -⟩ := Option.map_eq_some_iff.mp read
    exact noBlank_of_exponent? tail

/-- A numeral is written without white space. -/
theorem noBlank_of_ofChars? {text : List Char} {numeral : Numeral}
    (read : ofChars? text = some numeral) : NoBlank text := by
  -- It is the word for infinity, long or short, or the one for no number, or else decimal.
  unfold ofChars? at read
  dsimp only at read
  split at read
  · rename_i word
    rcases word with word | word
    · exact noBlank_of_map_toLower (by decide) word
    · exact noBlank_of_map_toLower (by decide) word
  · split at read
    · rename_i word
      exact noBlank_of_map_toLower (by decide) word
    · exact noBlank_of_decimal? read

end Numeral

/-- A floating-point number is written without white space. -/
theorem noBlank_of_readFloat? {text : List Char} {number : Float}
    (read : readFloat? text = some number) : NoBlank text := by
  unfold readFloat? at read
  -- A sign, if there is one, is no white space either.
  split at read
  all_goals obtain ⟨numeral, read, -⟩ := Option.map_eq_some_iff.mp read
  · exact noBlank_cons.mpr ⟨by decide, Numeral.noBlank_of_ofChars? read⟩
  · exact noBlank_cons.mpr ⟨by decide, Numeral.noBlank_of_ofChars? read⟩
  · exact Numeral.noBlank_of_ofChars? read

/-- The empty text is no floating-point number. -/
theorem ne_nil_of_readFloat? {text : List Char} {number : Float}
    (read : readFloat? text = some number) : text ≠ [] := by
  rintro rfl
  have unread : readFloat? [] = none := by decide +kernel
  exact absurd (unread.symm.trans read) (by simp)

end TwoBody
