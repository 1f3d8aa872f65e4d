import Mathlib.Algebra.Order.Field.Rat
import Mathlib.Tactic.Ring
import TwoBody.Number.Layout
import TwoBody.Number.Numeral

/-!
Exact numbers: what the text of a number denotes before it is rounded to floating point.

However a decimal is laid out, positionally or with an exponent, its text denotes that decimal.
-/

namespace TwoBody

/-- The exact number that a decimal stands for. -/
def Decimal.value (decimal : Decimal) : Rat :=
  decimal.coefficient * 10 ^ decimal.exponent

/-- The exact number that a decimal numeral without a sign denotes. -/
def Numeral.magnitude? (text : List Char) : Option Rat :=
  match Numeral.decimal? text with
  | some (.decimal coefficient exponent) => some (Decimal.value ⟨coefficient, exponent⟩)
  | _ => none

/-- Whether a number in decimal has a minus sign, and its exact magnitude. -/
def exactNumber? : List Char → Option (Bool × Rat)
  | '-' :: rest => (Numeral.magnitude? rest).map fun magnitude => (true, magnitude)
  | text => (Numeral.magnitude? text).map fun magnitude => (false, magnitude)

namespace Numeral

/-- Reading digits from left to right gives the number that they are the digits of. -/
theorem digitsValue_eq (text : List Char) : digitsValue text = Nat.ofDigitChars 10 text 0 :=
  Nat.ofDigitChars_eq_foldl.symm

/-- Zeros in front do not change the number that digits denote. -/
theorem digitsValue_replicate_append (count : Nat) (text : List Char) :
    digitsValue (List.replicate count '0' ++ text) = digitsValue text := by
  rw [digitsValue_eq, digitsValue_eq, Nat.ofDigitChars_append, Nat.ofDigitChars_replicate_zero,
    Nat.mul_zero]

/-- Each zero behind digits makes the number ten times as large. -/
theorem digitsValue_append_replicate (text : List Char) (count : Nat) :
    digitsValue (text ++ List.replicate count '0') = 10 ^ count * digitsValue text := by
  rw [digitsValue_eq, digitsValue_eq, Nat.ofDigitChars_append, Nat.ofDigitChars_replicate_zero]

/-- All characters of the text are decimal digits. -/
def Digits (text : List Char) : Prop :=
  -- There may be none of them.
  ∀ character ∈ text, character.isDigit = true

/-- The digits of a number are decimal digits. -/
theorem digits_toDigits (number : Nat) : Digits (Nat.toDigits 10 number) :=
  fun _ member => Nat.isDigit_of_mem_toDigits (by decide) (by decide) member

/-- Zeros are decimal digits. -/
theorem digits_replicate_zero (count : Nat) : Digits (List.replicate count '0') := by
  intro character member
  rw [List.eq_of_mem_replicate member]
  decide

/-- The text goes on with a mark that is no digit, or ends. -/
def Closed (text : List Char) : Prop :=
  -- The digits before such a text end where it begins.
  ∀ character ∈ text.head?, character.isDigit = false ∧ character ≠ '.'

/-- Digits are read up to where they end. -/
theorem span_digits {digits tail : List Char} (plain : Digits digits)
    (ends : ∀ character ∈ tail.head?, character.isDigit = false) :
    (digits ++ tail).takeWhile Char.isDigit = digits ∧
      (digits ++ tail).dropWhile Char.isDigit = tail := by
  rw [List.takeWhile_append_of_pos plain, List.dropWhile_append_of_pos plain]
  cases tail with
  | nil => simp
  | cons first rest =>
    have other : first.isDigit = false := ends first rfl
    simp [other]

/-- A natural number is read from its digits. -/
theorem natural?_toDigits (number : Nat) : natural? (Nat.toDigits 10 number) = some number := by
  have digits : (Nat.toDigits 10 number).all Char.isDigit = true :=
    List.all_eq_true.mpr (digits_toDigits number)
  rw [natural?, if_pos ⟨Nat.toDigits_ne_nil, digits⟩, digitsValue_eq, Nat.ofDigitChars_ten_toDigits]

/-- An exponent is read from its digits behind its sign, and a plus sign may be left out. -/
theorem exponent?_written (power : Int) {mark : List Char} (plus : mark = [] ∨ mark = ['+']) :
    exponent? ('e' :: ((if power < 0 then ['-'] else mark) ++ Nat.toDigits 10 power.natAbs)) =
      some power := by
  have digits := natural?_toDigits power.natAbs
  unfold exponent?
  by_cases negative : power < 0
  · have size : -(power.natAbs : Int) = power := by omega
    simp only [if_pos negative, List.singleton_append, true_or, if_true, digits]
    exact congrArg some size
  · have size : (power.natAbs : Int) = power := by omega
    simp only [if_neg negative, true_or, if_true]
    rcases plus with rfl | rfl
    · -- Without a sign there is a digit, which is not taken for one.
      have head := digits_toDigits power.natAbs
      rw [List.nil_append]
      split
      · rename_i written
        rw [written] at head
        exact absurd (head '-' List.mem_cons_self) (by decide)
      · rename_i written
        rw [written] at head
        exact absurd (head '+' List.mem_cons_self) (by decide)
      · rw [digits]
        exact congrArg some size
    · simp only [List.singleton_append, digits]
      exact congrArg some size

/-- The digits in front of an exponent end at its mark. -/
theorem closed_exponent (rest : List Char) : Closed ('e' :: rest) := by
  rintro _ ⟨⟩
  decide

/-- Digits without a point denote a multiple of the power of ten behind them. -/
theorem decimal?_whole {whole tail : List Char} (some : whole ≠ []) (plain : Digits whole)
    (closed : Closed tail) :
    decimal? (whole ++ tail) =
      (exponent? tail).map fun exponent => .decimal (digitsValue whole) exponent := by
  obtain ⟨front, back⟩ := span_digits plain fun character first => (closed character first).1
  unfold decimal?
  simp only [front, back]
  cases tail with
  | nil => simp [some]
  | cons first rest =>
    have other : first ≠ '.' := (closed first rfl).2
    split
    · rename_i after split
      exact absurd (List.cons.inj split).1 other
    · simp [some]

/-- Digits behind a point lower the power of ten. -/
theorem decimal?_point {whole fraction tail : List Char} (some : whole ≠ []) (plain : Digits whole)
    (places : Digits fraction) (closed : Closed tail) :
    decimal? (whole ++ '.' :: (fraction ++ tail)) =
      (exponent? tail).map fun exponent =>
        .decimal (digitsValue (whole ++ fraction)) (exponent - fraction.length) := by
  have point : ∀ character ∈ ('.' :: (fraction ++ tail)).head?, character.isDigit = false := by
    rintro _ ⟨⟩
    decide
  obtain ⟨front, back⟩ := span_digits plain point
  obtain ⟨inner, rest⟩ := span_digits places fun character first => (closed character first).1
  unfold decimal?
  simp only [front, back, inner, rest]
  simp [some]

/-- A decimal that is read tells the exact number. -/
theorem magnitude?_of_decimal? {text : List Char} {coefficient : Nat} {exponent : Int}
    (read : decimal? text = some (.decimal coefficient exponent)) :
    magnitude? text = some (Decimal.value ⟨coefficient, exponent⟩) := by
  rw [magnitude?, read]

/-- Digits with nothing but an end behind them denote their number. -/
theorem magnitude?_whole {whole : List Char} (some : whole ≠ []) (plain : Digits whole) :
    magnitude? whole = .some (Decimal.value ⟨digitsValue whole, 0⟩) := by
  have closed : Closed [] := by simp [Closed]
  have read := decimal?_whole some plain closed
  rw [List.append_nil] at read
  exact magnitude?_of_decimal? read

/-- Digits around a point denote a multiple of the last place. -/
theorem magnitude?_point {whole fraction : List Char} (some : whole ≠ []) (plain : Digits whole)
    (places : Digits fraction) :
    magnitude? (whole ++ '.' :: fraction) =
      .some (Decimal.value ⟨digitsValue (whole ++ fraction), -fraction.length⟩) := by
  have closed : Closed [] := by simp [Closed]
  have read := decimal?_point some plain places closed
  rw [List.append_nil, exponent?, Option.map_some, Int.zero_sub] at read
  exact magnitude?_of_decimal? read

end Numeral

namespace Decimal

open Numeral

/-- The digits of a decimal denote its coefficient. -/
theorem digitsValue_digitList (decimal : Decimal) :
    digitsValue decimal.digitList = decimal.coefficient := by
  rw [digitsValue_eq, digitList, Nat.ofDigitChars_ten_toDigits]

/-- There is at least one digit. -/
theorem digitList_ne_nil (decimal : Decimal) : decimal.digitList ≠ [] :=
  Nat.toDigits_ne_nil

/-- The digits of a decimal are decimal digits. -/
theorem digits_digitList (decimal : Decimal) : Digits decimal.digitList :=
  digits_toDigits decimal.coefficient

/-- Zeros behind the coefficient stand for a higher power of ten. -/
theorem value_zeros (coefficient count : Nat) (exponent : Int) :
    value ⟨10 ^ count * coefficient, exponent⟩ = value ⟨coefficient, exponent + count⟩ := by
  have ten : (10 : Rat) ≠ 0 := by decide
  rw [value, value, Rat.zpow_add ten, Rat.zpow_natCast]
  push_cast
  ring

/-- The text of a whole number denotes it, with or without a point. -/
theorem magnitude?_zeros (decimal : Decimal) {wholeMark : String}
    (mark : wholeMark = "" ∨ wholeMark = ".0") (whole : 0 ≤ decimal.exponent) :
    magnitude? (decimal.digitList ++ List.replicate decimal.exponent.toNat '0' ++
      wholeMark.toList) = some decimal.value := by
  have front : Digits (decimal.digitList ++ List.replicate decimal.exponent.toNat '0') :=
    List.forall_mem_append.mpr ⟨decimal.digits_digitList, digits_replicate_zero _⟩
  have nonempty : decimal.digitList ++ List.replicate decimal.exponent.toNat '0' ≠ [] :=
    List.append_ne_nil_of_left_ne_nil decimal.digitList_ne_nil _
  rcases mark with rfl | rfl
  · have same : 0 + (decimal.exponent.toNat : Int) = decimal.exponent := by omega
    have read := magnitude?_whole nonempty front
    rw [digitsValue_append_replicate, digitsValue_digitList, value_zeros, same] at read
    rw [← read, String.toList_empty, List.append_nil]
  · -- The point has one more zero behind it.
    have more : decimal.digitList ++ List.replicate decimal.exponent.toNat '0' ++ ['0'] =
        decimal.digitList ++ List.replicate (decimal.exponent.toNat + 1) '0' := by
      rw [List.append_assoc, List.replicate_succ']
    have same : -((['0'] : List Char).length : Int) + ((decimal.exponent.toNat + 1 : Nat) : Int) =
        decimal.exponent := by
      simp only [List.length_singleton]
      omega
    have read := magnitude?_point nonempty front (digits_replicate_zero 1)
    rw [List.replicate_one, more, digitsValue_append_replicate, digitsValue_digitList, value_zeros,
      same] at read
    exact read

/-- However its point is placed, a positional decimal denotes itself. -/
theorem magnitude?_positional (decimal : Decimal) {wholeMark : String}
    (mark : wholeMark = "" ∨ wholeMark = ".0") :
    magnitude? (decimal.positional wholeMark).toList = some decimal.value := by
  have count : decimal.leading = decimal.exponent + decimal.digitList.length - 1 := rfl
  have some := List.length_pos_iff.mpr decimal.digitList_ne_nil
  unfold positional
  simp only
  split
  · rename_i whole
    rw [String.toList_append, String.toList_ofList]
    exact decimal.magnitude?_zeros mark whole
  · split
    · -- The point stands among the digits.
      have front : Digits (decimal.digitList.take (decimal.leading.toNat + 1)) :=
        fun character member => decimal.digits_digitList character (List.mem_of_mem_take member)
      have back : Digits (decimal.digitList.drop (decimal.leading.toNat + 1)) :=
        fun character member => decimal.digits_digitList character (List.mem_of_mem_drop member)
      have nonempty : decimal.digitList.take (decimal.leading.toNat + 1) ≠ [] := by
        rw [← List.length_pos_iff, List.length_take]
        omega
      have places : -((decimal.digitList.drop (decimal.leading.toNat + 1)).length : Int) =
          decimal.exponent := by
        rw [List.length_drop]
        omega
      rw [String.toList_ofList, magnitude?_point nonempty front back, List.take_append_drop,
        digitsValue_digitList, places]
    · -- The point stands before them, with zeros between.
      have zeros : Digits (List.replicate (-decimal.leading - 1).toNat '0' ++ decimal.digitList) :=
        List.forall_mem_append.mpr ⟨digits_replicate_zero _, decimal.digits_digitList⟩
      have places : -((List.replicate (-decimal.leading - 1).toNat '0' ++
          decimal.digitList).length : Int) = decimal.exponent := by
        rw [List.length_append, List.length_replicate]
        omega
      have zero : Digits ['0'] := List.forall_mem_singleton.mpr (by decide)
      have read := magnitude?_point (by simp) zero zeros
      rw [places, ← List.append_assoc, ← List.replicate_one, List.replicate_append_replicate,
        digitsValue_replicate_append, digitsValue_digitList] at read
      rw [String.toList_ofList]
      exact read

/-- In scientific notation a decimal denotes itself, with or without a plus sign. -/
theorem magnitude?_scientific (decimal : Decimal) {exponentMark : String}
    (plus : exponentMark = "" ∨ exponentMark = "+") :
    magnitude? (decimal.scientific exponentMark).toList = some decimal.value := by
  have count : decimal.leading = decimal.exponent + decimal.digitList.length - 1 := rfl
  have plain := decimal.digits_digitList
  have value := decimal.digitsValue_digitList
  have sign : exponentMark.toList = [] ∨ exponentMark.toList = ['+'] := by
    rcases plus with rfl | rfl
    · exact Or.inl rfl
    · exact Or.inr rfl
  have power := exponent?_written decimal.leading sign
  have closed := closed_exponent ((if decimal.leading < 0 then ['-'] else exponentMark.toList) ++
    Nat.toDigits 10 decimal.leading.natAbs)
  -- The text is the mantissa and what is behind it.
  have behind : ("e" ++ (if decimal.leading < 0 then "-" else exponentMark) ++
      inspect decimal.leading.natAbs).toList =
      'e' :: ((if decimal.leading < 0 then ['-'] else exponentMark.toList) ++
        Nat.toDigits 10 decimal.leading.natAbs) := by
    split <;> simp [inspect]
  unfold scientific
  simp only [String.append_assoc] at behind ⊢
  rw [String.toList_append, behind, String.toList_ofList]
  cases digits : decimal.digitList with
  | nil => exact absurd digits decimal.digitList_ne_nil
  | cons first rest =>
    rw [digits] at plain value count
    obtain ⟨head, tail⟩ := List.forall_mem_cons.mp plain
    have single : Digits [first] := List.forall_mem_singleton.mpr head
    cases rest with
    | nil =>
      have same : decimal.leading = decimal.exponent := by
        simp only [List.length_singleton] at count
        omega
      have read := decimal?_whole (by simp) single closed
      rw [power, Option.map_some, value] at read
      exact (magnitude?_of_decimal? read).trans (by rw [same])
    | cons second others =>
      have same : decimal.leading - ((second :: others).length : Int) = decimal.exponent := by
        simp only [List.length_cons] at count ⊢
        omega
      have joined : digitsValue ([first] ++ second :: others) = decimal.coefficient := value
      have read := decimal?_point (by simp) single tail closed
      rw [power, Option.map_some, same, joined] at read
      exact magnitude?_of_decimal? read

end Decimal

open Numeral

/-- A text that begins with a sign is no numeral without one. -/
theorem Numeral.magnitude?_minus (rest : List Char) : magnitude? ('-' :: rest) = none := by
  simp [magnitude?, decimal?]

/-- A numeral without a sign is read as a number without one. -/
theorem exactNumber?_of_magnitude? {text : List Char} {size : Rat}
    (read : magnitude? text = some size) : exactNumber? text = some (false, size) := by
  unfold exactNumber?
  split
  · rw [magnitude?_minus] at read
    cases read
  · rw [read]
    rfl

/-- Behind a minus sign, the magnitude is that of the rest. -/
theorem exactNumber?_minus {text : List Char} {size : Rat} (read : magnitude? text = some size) :
    exactNumber? ('-' :: text) = some (true, size) := by
  rw [exactNumber?, read]
  rfl

namespace Layout

/-- The marks of a layout do not change what a decimal denotes. -/
structure Exact (layout : Layout) : Prop where
  /-- Behind a whole number there is at most a zero behind a point. -/
  whole : layout.wholeMark = "" ∨ layout.wholeMark = ".0"
  /-- An exponent that is not negative has at most a plus sign. -/
  plus : layout.exponentMark = "" ∨ layout.exponentMark = "+"

/-- Plain text is exact. -/
theorem plain_exact : plain.Exact :=
  ⟨Or.inl rfl, Or.inl rfl⟩

/-- The layout of JSON is exact. -/
theorem json_exact : json.Exact :=
  ⟨Or.inr rfl, Or.inr rfl⟩

/-- The decimal that is written for the magnitude of a number. -/
def decimal (layout : Layout) (mantissa : Nat) (exponent : Int) : Decimal :=
  if mantissa = 0 then ⟨0, 0⟩ else shortest layout.tie mantissa exponent

/-- What an exact layout writes denotes the decimal that it has chosen, with the number's sign. -/
theorem Exact.exactNumber?_render {layout : Layout} (exact : layout.Exact) {number : Float}
    {negative : Bool} {mantissa : Nat} {exponent : Int}
    (finite : Binary64.ofFloat number = .finite negative mantissa exponent) :
    exactNumber? (layout.render number).toList =
      some (negative, (layout.decimal mantissa exponent).value) := by
  have magnitude : magnitude? (if mantissa = 0 then "0" ++ layout.wholeMark
      else if layout.positional (shortest layout.tie mantissa exponent).leading then
        (shortest layout.tie mantissa exponent).positional layout.wholeMark
      else (shortest layout.tie mantissa exponent).scientific layout.exponentMark).toList =
      some (layout.decimal mantissa exponent).value := by
    unfold Layout.decimal
    split
    · exact Decimal.magnitude?_positional ⟨0, 0⟩ exact.whole
    · split
      · exact (shortest layout.tie mantissa exponent).magnitude?_positional exact.whole
      · exact (shortest layout.tie mantissa exponent).magnitude?_scientific exact.plus
  unfold render
  rw [finite]
  simp only
  cases negative with
  | false => exact exactNumber?_of_magnitude? magnitude
  | true =>
    rw [if_pos rfl, String.toList_append]
    exact exactNumber?_minus magnitude

end Layout

end TwoBody
