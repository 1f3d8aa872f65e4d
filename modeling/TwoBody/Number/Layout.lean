import TwoBody.Inspect
import TwoBody.Number.Shortest

/-! How floating-point numbers are laid out as text, from their shortest digits. -/

namespace TwoBody

/-- The decisions that a text format makes about floating-point numbers. -/
structure Layout where
  /-- Which of two equally near shortest decimals is written. -/
  tie : Tie
  /-- Whether a number whose first digit stands for this power of ten is written positionally. -/
  positional : Int → Bool
  /-- What follows the last digit of a whole number that is written positionally. -/
  wholeMark : String
  /-- What stands before an exponent that is not negative. -/
  exponentMark : String
  /-- The text of what is not a number. -/
  nan : String
  /-- The text of plus or minus infinity. -/
  infinite : Bool → String

namespace Decimal

/-- The decimal digits of the coefficient. -/
def digitList (decimal : Decimal) : List Char :=
  Nat.toDigits 10 decimal.coefficient

/-- The power of ten that the first digit stands for. -/
def leading (decimal : Decimal) : Int :=
  decimal.exponent + decimal.digitList.length - 1

/-- The digits with a point among or before them, or with zeros and a mark behind them. -/
def positional (decimal : Decimal) (wholeMark : String) : String :=
  let all := decimal.digitList
  if 0 ≤ decimal.exponent then
    String.ofList (all ++ List.replicate decimal.exponent.toNat '0') ++ wholeMark
  else if 0 ≤ decimal.leading then
    let whole := decimal.leading.toNat + 1
    String.ofList (all.take whole ++ '.' :: all.drop whole)
  else
    String.ofList ('0' :: '.' :: (List.replicate (-decimal.leading - 1).toNat '0' ++ all))

/-- One digit, a point and the other digits, if there are any, then the power of ten. -/
def scientific (decimal : Decimal) (exponentMark : String) : String :=
  let mantissa :=
    match decimal.digitList with
    | first :: second :: rest => first :: '.' :: second :: rest
    | short => short
  let mark := if decimal.leading < 0 then "-" else exponentMark
  String.ofList mantissa ++ "e" ++ mark ++ inspect decimal.leading.natAbs

end Decimal

namespace Layout

/-- The text of a floating-point number. -/
def render (layout : Layout) (number : Float) : String :=
  match Binary64.ofFloat number with
  | .nan => layout.nan
  | .infinite negative => layout.infinite negative
  | .finite negative mantissa exponent =>
    let magnitude :=
      if mantissa = 0 then "0" ++ layout.wholeMark
      else
        let decimal := shortest layout.tie mantissa exponent
        if layout.positional decimal.leading then decimal.positional layout.wholeMark
        else decimal.scientific layout.exponentMark
    if negative then "-" ++ magnitude else magnitude

/-- The infinities as words with a sign. -/
def signedInfinity (negative : Bool) : String :=
  if negative then "-inf" else "inf"

/-- Plain text never has an exponent, and whole numbers have no point. -/
def plain : Layout where
  tie := .up
  positional := fun _ => true
  wholeMark := ""
  exponentMark := ""
  nan := "NaN"
  infinite := signedInfinity

/-- Diagnostics keep a point in whole numbers and use an exponent below 1e-4 and from 1e16 on. -/
def diagnostic : Layout where
  tie := .up
  positional := fun power => -4 ≤ power ∧ power < 16
  wholeMark := ".0"
  exponentMark := ""
  nan := "NaN"
  infinite := signedInfinity

/-- JSON has no infinities, and uses an exponent, with its sign, below 1e-5 and from 1e16 on. -/
def json : Layout where
  tie := .even
  positional := fun power => -5 ≤ power ∧ power < 16
  wholeMark := ".0"
  exponentMark := "+"
  nan := "null"
  infinite := fun _ => "null"

end Layout

/-- Floating-point numbers are shown in the layout of diagnostics. -/
instance : Inspect Float where
  inspect := Layout.diagnostic.render

end TwoBody
