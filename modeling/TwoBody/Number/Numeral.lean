/-! Numerals: decimal numbers as text, and the floating-point numbers nearest to them. -/

namespace TwoBody

/-- What a numeral without its sign denotes. -/
inductive Numeral where
  /-- The number `coefficient * 10 ^ exponent`. -/
  | decimal (coefficient : Nat) (exponent : Int)
  /-- Infinity. -/
  | infinite
  /-- Not a number. -/
  | nan
  deriving DecidableEq, Repr

namespace Numeral

/-- The number that a list of decimal digits denotes. -/
def digitsValue (text : List Char) : Nat :=
  text.foldl (fun value digit => 10 * value + (digit.toNat - '0'.toNat)) 0

/-- A natural number: one or more decimal digits and nothing else. -/
def natural? (text : List Char) : Option Nat :=
  if text ≠ [] ∧ text.all Char.isDigit then some (digitsValue text) else none

/-- An exponent at the end of a numeral: nothing, or `e` or `E`, a sign or none, and digits. -/
def exponent? : List Char → Option Int
  | [] => some 0
  | mark :: rest =>
    if mark = 'e' ∨ mark = 'E' then
      match rest with
      | '-' :: digits => (natural? digits).map fun size => -size
      | '+' :: digits => (natural? digits).map fun size => size
      | digits => (natural? digits).map fun size => size
    else none

/-- Digits with at most one point before, among or after them, and an exponent or none. -/
def decimal? (text : List Char) : Option Numeral :=
  let whole := text.takeWhile Char.isDigit
  let rest := text.dropWhile Char.isDigit
  let (fraction, tail) :=
    match rest with
    | '.' :: after => (after.takeWhile Char.isDigit, after.dropWhile Char.isDigit)
    | _ => ([], rest)
  if whole ++ fraction = [] then none
  else (exponent? tail).map fun exponent =>
    .decimal (digitsValue (whole ++ fraction)) (exponent - fraction.length)

/-- A numeral without a sign: a word for infinity or for no number, in any case, or a decimal. -/
def ofChars? (text : List Char) : Option Numeral :=
  let word := String.ofList (text.map Char.toLower)
  if word = "inf" ∨ word = "infinity" then some .infinite
  else if word = "nan" then some .nan
  else decimal? text

/-- The floating-point number nearest to what the numeral denotes. -/
def toFloat : Numeral → Float
  | .decimal coefficient exponent =>
    let places : Int := (Nat.toDigits 10 coefficient).length + exponent
    if coefficient = 0 then 0
    -- Far outside the range of floating point, rounding gives infinity or zero.
    else if 310 < places then 1 / 0
    else if places < -330 then 0
    else Float.ofScientific coefficient (exponent < 0) exponent.natAbs
  | .infinite => 1 / 0
  | .nan => 0 / 0

end Numeral

/-- Reads a floating-point number: a numeral with a sign or none. -/
def readFloat? : List Char → Option Float
  | '-' :: rest => (Numeral.ofChars? rest).map fun numeral => -numeral.toFloat
  | '+' :: rest => (Numeral.ofChars? rest).map Numeral.toFloat
  | text => (Numeral.ofChars? text).map Numeral.toFloat

end TwoBody
