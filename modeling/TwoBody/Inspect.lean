/-! The text by which diagnostics show a value. -/

namespace TwoBody

/-- A type whose values have a text for diagnostics. -/
class Inspect (α : Type) where
  /-- The text by which diagnostics show a value. -/
  inspect : α → String

export Inspect (inspect)

/-- Natural numbers are shown in decimal. -/
instance : Inspect Nat where
  inspect value := String.ofList (Nat.toDigits 10 value)

/-- Integers are shown in decimal, with a minus sign below zero. -/
instance : Inspect Int where
  inspect value := if value < 0 then "-" ++ inspect value.natAbs else inspect value.natAbs

end TwoBody
