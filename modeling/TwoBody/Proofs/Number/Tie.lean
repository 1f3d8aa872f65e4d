import TwoBody.Proofs.Number.Shortest

/-!
Ties: two shortest decimals of a number differ only if the number lies half way between them.

For each way of breaking ties, what is chosen is the nearest of the shortest decimals. It is the
same one, or an even one and the next one on the same grid.
-/

namespace TwoBody

namespace RoundingInterval

/-- A number lies half way between two neighbours on a grid, of which the lower one is even. -/
structure Midway (number : Rat) (lower upper : Decimal) : Prop where
  /-- The last digit of the lower decimal is even. -/
  even : lower.coefficient % 2 = 0
  /-- The upper decimal is the next one on the same grid. -/
  next : upper = ⟨lower.coefficient + 1, lower.exponent⟩
  /-- The number is as far from one as from the other. -/
  middle : lower.value + upper.value = 2 * number

/-- A number lies half way between two decimals, and both are shortest ones of the interval. -/
structure Tied (interval : RoundingInterval) (number : Rat) (lower upper : Decimal) : Prop
    extends Midway number lower upper where
  /-- The lower decimal rounds to the number, and no shorter one does. -/
  lowerShortest : interval.Shortest lower
  /-- So does the upper decimal, and no shorter one. -/
  upperShortest : interval.Shortest upper

/-- Half way between two neighbours is so in the common unit as well. -/
theorem middle_iff {interval : RoundingInterval} {tens : Int} {below : Nat} :
    Decimal.value ⟨below, tens⟩ + Decimal.value ⟨below + 1, tens⟩ = 2 * interval.number ↔
      2 * interval.value * (commonUnit tens interval.exponent).2 =
        (below + (below + 1)) * (commonUnit tens interval.exponent).1 := by
  obtain ⟨unit, positive, point, bound⟩ := exists_counts tens interval.exponent
  have sum : Decimal.value ⟨below, tens⟩ + Decimal.value ⟨below + 1, tens⟩ =
      ((below + (below + 1)) * (commonUnit tens interval.exponent).1 : Nat) * unit := by
    rw [point, point, Nat.add_mul below (below + 1), Nat.cast_add]
    exact (add_mul _ _ unit).symm
  have twice : 2 * interval.number =
      (2 * interval.value * (commonUnit tens interval.exponent).2 : Nat) * unit := by
    rw [number, bound, Nat.mul_assoc, Nat.cast_mul 2, Nat.cast_ofNat, mul_assoc]
  -- Both sides are counts of the unit.
  rw [sum, twice, mul_left_inj' positive.ne', Nat.cast_inj]
  exact eq_comm

/-- On one grid, the two ways of breaking ties differ only where there is a tie. -/
theorem nearest?_up_eq_or_midway (interval : RoundingInterval) (tens : Int) :
    interval.nearest? .up tens = interval.nearest? .even tens ∨
      ∃ below, interval.nearest? .even tens = some below ∧
        interval.nearest? .up tens = some (below + 1) ∧
        Midway interval.number ⟨below, tens⟩ ⟨below + 1, tens⟩ := by
  unfold nearest?
  simp only
  generalize point : interval.value * (commonUnit tens interval.exponent).2 /
    (commonUnit tens interval.exponent).1 = below
  split
  · exact Or.inl rfl
  · exact Or.inl rfl
  · exact Or.inl rfl
  · -- Both neighbours of the value round to it, so the nearer one is chosen.
    cases order : compare (2 * interval.value * (commonUnit tens interval.exponent).2)
        ((below + (below + 1)) * (commonUnit tens interval.exponent).1) with
    | lt => exact Or.inl rfl
    | gt => exact Or.inl rfl
    | eq =>
      by_cases even : below % 2 = 0
      · have middle := middle_iff.mpr (Nat.compare_eq_eq.mp order)
        exact Or.inr ⟨below, by simp [even], rfl, even, rfl, middle⟩
      · -- The upper one is even.
        refine Or.inl ?_
        simp [even]

/-- At a tie, one way of breaking it chooses the lower decimal, and the other one the upper. -/
theorem Tied.nearest?_eq {interval : RoundingInterval} {lower upper : Decimal}
    (tied : interval.Tied interval.number lower upper) :
    interval.nearest? .even lower.exponent = some lower.coefficient ∧
      interval.nearest? .up lower.exponent = some upper.coefficient := by
  obtain ⟨below, tens⟩ := lower
  obtain ⟨⟨even, rfl, middle⟩, low, high⟩ := tied
  have holdsLow := holds_iff_contains.mpr low.inside
  have holdsHigh := holds_iff_contains.mpr high.inside
  have counts := middle_iff.mp middle
  -- The lower decimal is the last one that is not above the number.
  have point : interval.value * (commonUnit tens interval.exponent).2 /
      (commonUnit tens interval.exponent).1 = below := by
    have room := commonUnit_pos tens interval.exponent
    rw [Nat.mul_assoc, Nat.add_mul, Nat.add_one_mul below] at counts
    refine Nat.div_eq_of_lt_le (by omega) ?_
    rw [Nat.add_one_mul below]
    omega
  -- Both neighbours are in the interval, and the comparison of their distances is a draw.
  unfold nearest?
  simp only [point, holdsLow, holdsHigh, counts]
  simp [even]

end RoundingInterval

open RoundingInterval

/-- What is chosen for each way of breaking ties is the same, unless there is a tie. -/
theorem shortest_up_eq_or_tied {number : Float} {negative : Bool} {mantissa : Nat} {exponent : Int}
    (finite : Binary64.ofFloat number = .finite negative mantissa exponent)
    (positive : mantissa ≠ 0) :
    shortest .up mantissa exponent = shortest .even mantissa exponent ∨
      (around mantissa exponent).Tied (mantissa * 2 ^ exponent) (shortest .even mantissa exponent)
        (shortest .up mantissa exponent) := by
  rw [← number_around]
  obtain ⟨upper, chosenUp⟩ := shortest_spec finite positive .up
  obtain ⟨lower, chosenEven⟩ := shortest_spec finite positive .even
  -- Both are shortest, so they are on one grid, and each is what is found there.
  have grid := upper.exponent_eq lower
  generalize shortest .up mantissa exponent = up at *
  generalize shortest .even mantissa exponent = even at *
  obtain ⟨high, tens⟩ := up
  obtain ⟨low, place⟩ := even
  obtain rfl : tens = place := grid
  rcases nearest?_up_eq_or_midway (around mantissa exponent) tens with
    same | ⟨below, foundEven, foundUp, midway⟩
  · rw [same, chosenEven] at chosenUp
    exact Or.inl (upper.eq_of_coefficient_eq lower (Option.some.inj chosenUp).symm)
  · obtain rfl := Option.some.inj (chosenEven.symm.trans foundEven)
    obtain rfl := Option.some.inj (chosenUp.symm.trans foundUp)
    exact Or.inr ⟨midway, lower, upper⟩

/-- There is no tie at zero. -/
theorem RoundingInterval.Tied.ne_zero {mantissa : Nat} {exponent : Int} {lower upper : Decimal}
    (tied : (around mantissa exponent).Tied (mantissa * 2 ^ exponent) lower upper) :
    mantissa ≠ 0 := by
  -- A zero is on every grid, so no decimal is the shortest one for it.
  rintro rfl
  exact not_shortest_zero tied.lowerShortest

/-- At a tie, what is chosen is the lower decimal for one way of breaking it, or the upper. -/
theorem RoundingInterval.Tied.shortest_eq {number : Float} {negative : Bool} {mantissa : Nat}
    {exponent : Int} (finite : Binary64.ofFloat number = .finite negative mantissa exponent)
    {lower upper : Decimal}
    (tied : (around mantissa exponent).Tied (mantissa * 2 ^ exponent) lower upper) :
    shortest .even mantissa exponent = lower ∧ shortest .up mantissa exponent = upper := by
  obtain ⟨even, chosenEven⟩ := shortest_spec finite tied.ne_zero .even
  obtain ⟨up, chosenUp⟩ := shortest_spec finite tied.ne_zero .up
  obtain ⟨foundEven, foundUp⟩ := (number_around mantissa exponent ▸ tied).nearest?_eq
  -- All four decimals are on one grid.
  rw [even.exponent_eq tied.lowerShortest, foundEven] at chosenEven
  rw [up.exponent_eq tied.lowerShortest, foundUp] at chosenUp
  constructor
  · exact even.eq_of_coefficient_eq tied.lowerShortest (Option.some.inj chosenEven).symm
  · exact up.eq_of_coefficient_eq tied.upperShortest (Option.some.inj chosenUp).symm

/-- A finite number lies half way between two decimals that are both shortest ones for it. -/
def Halfway (number : Float) (lower upper : Decimal) : Prop :=
  ∃ negative mantissa exponent, Binary64.ofFloat number = .finite negative mantissa exponent ∧
    (around mantissa exponent).Tied (mantissa * 2 ^ exponent) lower upper

/-- How the plain text and the JSON text of a number are related as exact numbers. -/
inductive DenoteAlike (number : Float) (text json : String) : Prop where
  /-- There is no tie, and both denote the same number, with the same sign. -/
  | same {negative : Bool} {size : Rat}
      (apart : ∀ lower upper, ¬ Halfway number lower upper)
      (plain : exactNumber? text.toList = some (negative, size))
      (member : exactNumber? json.toList = some (negative, size))
  /-- The number lies half way between what they denote, and both have the same sign. -/
  | tied {negative : Bool} {lower upper : Decimal} (halfway : Halfway number lower upper)
      (plain : exactNumber? text.toList = some (negative, upper.value))
      (member : exactNumber? json.toList = some (negative, lower.value))

namespace Layout

/-- A finite number has the same magnitude as text and as JSON, unless there is a tie. -/
theorem denoteAlike_render {number : Float} {negative : Bool} {mantissa : Nat} {exponent : Int}
    (finite : Binary64.ofFloat number = .finite negative mantissa exponent) :
    DenoteAlike number (plain.render number) (json.render number) := by
  have text := plain_exact.exactNumber?_render finite
  have member := json_exact.exactNumber?_render finite
  unfold Layout.decimal at text member
  by_cases tie : ∃ lower upper,
      (around mantissa exponent).Tied (mantissa * 2 ^ exponent) lower upper
  · obtain ⟨lower, upper, tied⟩ := tie
    obtain ⟨even, up⟩ := tied.shortest_eq finite
    rw [if_neg tied.ne_zero] at text member
    have above : shortest plain.tie mantissa exponent = upper := up
    have below : shortest json.tie mantissa exponent = lower := even
    rw [above] at text
    rw [below] at member
    exact .tied ⟨negative, mantissa, exponent, finite, tied⟩ text member
  · -- The parts of the number are those that there is no tie for.
    have apart : ∀ lower upper, ¬ Halfway number lower upper := by
      rintro lower upper ⟨_, _, _, same, tied⟩
      obtain ⟨rfl, rfl, rfl⟩ := Binary64.finite.inj (finite.symm.trans same)
      exact tie ⟨lower, upper, tied⟩
    refine .same apart (text.trans ?_) member
    split
    · rfl
    · rename_i positive
      rcases shortest_up_eq_or_tied finite positive with same | tied
      · exact congrArg (fun decimal : Decimal => some (negative, decimal.value)) same
      · exact absurd ⟨_, _, tied⟩ tie

/-- JSON has no number exactly where plain text has a word. -/
theorem json_render_eq_null_iff (number : Float) :
    json.render number = "null" ↔ plain.render number ∈ ["NaN", "inf", "-inf"] := by
  cases apart : Binary64.ofFloat number with
  | nan => simp [render, apart, plain, json]
  | infinite negative => cases negative <;> simp [render, apart, plain, json, signedInfinity]
  | finite negative mantissa exponent =>
    -- Words do not denote an exact number.
    have text := plain_exact.exactNumber?_render apart
    have member := json_exact.exactNumber?_render apart
    constructor
    · intro null
      rw [null] at member
      exact absurd member (by simp [exactNumber?, Numeral.magnitude?, Numeral.decimal?])
    · intro word
      simp only [List.mem_cons, List.not_mem_nil, or_false] at word
      rcases word with word | word | word <;>
        · rw [word] at text
          exact absurd text (by simp [exactNumber?, Numeral.magnitude?, Numeral.decimal?])

/-- A number that JSON has denotes the same as its plain text, unless there is a tie. -/
theorem denoteAlike_of_ne_null {number : Float} (present : json.render number ≠ "null") :
    DenoteAlike number (plain.render number) (json.render number) := by
  cases apart : Binary64.ofFloat number with
  | nan => exact absurd (by simp [render, apart, json]) present
  | infinite negative => exact absurd (by simp [render, apart, json]) present
  | finite negative mantissa exponent => exact denoteAlike_render apart

end Layout

end TwoBody
