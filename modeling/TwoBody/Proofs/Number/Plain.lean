import TwoBody.Number.Layout
import TwoBody.Number.Numeral
import TwoBody.Proofs.Text.Trim

/-! The plain text of numbers: it has no white space, and numbers that read back from it. -/

namespace TwoBody

/-- The digits of a decimal have no white space. -/
theorem Decimal.noBlank_digitList (decimal : Decimal) : NoBlank decimal.digitList :=
  noBlank_of_isDigit fun _ member => Nat.isDigit_of_mem_toDigits (by decide) (by decide) member

/-- A positional decimal has no white space if the mark behind it has none. -/
theorem Decimal.noBlank_positional (decimal : Decimal) {wholeMark : String}
    (solid : NoBlank wholeMark.toList) : NoBlank (decimal.positional wholeMark).toList := by
  have digits := decimal.noBlank_digitList
  have zeros : ∀ count, NoBlank (List.replicate count '0') := by
    intro count character member
    rw [List.eq_of_mem_replicate member]
    decide
  have point : isBlank '.' = false := by decide
  have zero : isBlank '0' = false := by decide
  unfold positional
  simp only
  -- Only zeros, a point and the mark are written beside the digits.
  split
  · simp [digits, zeros, solid]
  · split
    · have front : NoBlank (decimal.digitList.take (decimal.leading.toNat + 1)) :=
        fun character member => digits character (List.mem_of_mem_take member)
      have back : NoBlank (decimal.digitList.drop (decimal.leading.toNat + 1)) :=
        fun character member => digits character (List.mem_of_mem_drop member)
      simp [front, back, point]
    · simp [digits, zeros, point, zero]

/-- The plain text of a number has no white space. -/
theorem noBlank_plain_render (number : Float) : NoBlank (Layout.plain.render number).toList := by
  unfold Layout.render
  split
  · exact (by decide : NoBlank "NaN".toList)
  · rename_i negative _
    cases negative
    · exact (by decide : NoBlank "inf".toList)
    · exact (by decide : NoBlank "-inf".toList)
  · rename_i negative mantissa exponent _
    have empty : NoBlank Layout.plain.wholeMark.toList := noBlank_nil
    have magnitude : NoBlank (if mantissa = 0 then "0" ++ Layout.plain.wholeMark
        else (shortest Layout.plain.tie mantissa exponent).positional
          Layout.plain.wholeMark).toList := by
      split
      · decide
      · exact (shortest Layout.plain.tie mantissa exponent).noBlank_positional empty
    -- Plain text is always positional, and stands perhaps behind a sign.
    have always : ∀ power, Layout.plain.positional power = true := fun _ => rfl
    simp only [always, if_true]
    split
    · rw [String.toList_append, noBlank_append]
      exact ⟨by decide, magnitude⟩
    · exact magnitude

/-- The number is read from the text that it is written as. -/
def ReadsBack (number : Float) : Prop :=
  -- Numbers that are not a number are all the same.
  readFloat? (Layout.plain.render number).toList = some number

instance (number : Float) : Decidable (ReadsBack number) :=
  inferInstanceAs (Decidable (readFloat? (Layout.plain.render number).toList = some number))

end TwoBody
