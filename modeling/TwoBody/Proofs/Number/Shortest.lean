import Mathlib.Algebra.Order.Field.Rat
import Mathlib.Tactic.FieldSimp
import Mathlib.Tactic.Linarith
import Mathlib.Tactic.Ring
import TwoBody.Proofs.Number.Exact

/-!
Shortest decimals: the decimal that is written for a number rounds to it, and no shorter one does.

The search goes from coarse grids to fine ones. It starts where no grid has a decimal that rounds to
the number, and does not end before it has found one.
-/

namespace TwoBody

namespace RoundingInterval

/-- The exact number that the interval is around. -/
def number (interval : RoundingInterval) : Rat :=
  interval.value * 2 ^ interval.exponent

/-- An exact number lies in the interval. -/
def Contains (interval : RoundingInterval) (number : Rat) : Prop :=
  -- The ends count only if the interval is closed.
  if interval.closed then
    interval.low * 2 ^ interval.exponent ≤ number ∧ number ≤ interval.high * 2 ^ interval.exponent
  else
    interval.low * 2 ^ interval.exponent < number ∧ number < interval.high * 2 ^ interval.exponent

/-- A decimal lies in the interval, and none does that has fewer places. -/
structure Shortest (interval : RoundingInterval) (decimal : Decimal) : Prop where
  /-- The decimal rounds to the number that the interval is around. -/
  inside : interval.Contains decimal.value
  /-- On coarser grids there is no decimal that does. -/
  coarsest : ∀ other : Decimal, decimal.exponent < other.exponent →
    ¬ interval.Contains other.value

/-- A power is a quotient of two powers with natural exponents, of which at least one is zero. -/
theorem zpow_mul_pow_toNat {base : Rat} (nonzero : base ≠ 0) (power : Int) :
    base ^ power * base ^ (-power).toNat = base ^ power.toNat := by
  rw [← Rat.zpow_natCast, ← Rat.zpow_natCast, ← Rat.zpow_add nonzero]
  congr 1
  omega

/-- The powers of ten and of two are multiples of their common unit. -/
theorem exists_unit (tens twos : Int) :
    ∃ unit : Rat, 0 < unit ∧ ((commonUnit tens twos).1 : Rat) * unit = 10 ^ tens ∧
      ((commonUnit tens twos).2 : Rat) * unit = 2 ^ twos := by
  have ten : (10 : Rat) ≠ 0 := by decide
  have two : (2 : Rat) ≠ 0 := by decide
  have lowTen : (10 : Rat) ^ (-tens).toNat ≠ 0 := pow_ne_zero _ ten
  have lowTwo : (2 : Rat) ^ (-twos).toNat ≠ 0 := pow_ne_zero _ two
  -- The unit is the product of the two powers, as far as they are below one.
  have positive : (0 : Rat) < 10 ^ (-tens).toNat * 2 ^ (-twos).toNat :=
    mul_pos (pow_pos (by decide) _) (pow_pos (by decide) _)
  refine ⟨(10 ^ (-tens).toNat * 2 ^ (-twos).toNat)⁻¹, inv_pos.mpr positive, ?_, ?_⟩
  · have cast : ((commonUnit tens twos).1 : Rat) = 10 ^ tens.toNat * 2 ^ (-twos).toNat := by
      simp [commonUnit]
    rw [cast, ← zpow_mul_pow_toNat ten]
    field_simp
  · have cast : ((commonUnit tens twos).2 : Rat) = 2 ^ twos.toNat * 10 ^ (-tens).toNat := by
      simp [commonUnit]
    rw [cast, ← zpow_mul_pow_toNat two]
    field_simp

/-- Decimals of a grid and multiples of a power of two are counts of one unit. -/
theorem exists_counts (tens twos : Int) :
    ∃ unit : Rat, 0 < unit ∧
      (∀ coefficient : Nat, Decimal.value ⟨coefficient, tens⟩ =
        (coefficient * (commonUnit tens twos).1 : Nat) * unit) ∧
      ∀ count : Nat, (count : Rat) * 2 ^ twos =
        (count * (commonUnit tens twos).2 : Nat) * unit := by
  obtain ⟨unit, positive, tenUnits, twoUnits⟩ := exists_unit tens twos
  refine ⟨unit, positive, fun coefficient => ?_, fun count => ?_⟩
  · rw [Decimal.value, ← tenUnits]
    push_cast
    ring
  · rw [← twoUnits]
    push_cast
    ring

/-- The power of ten is at least one unit. -/
theorem commonUnit_pos (tens twos : Int) : 0 < (commonUnit tens twos).1 := by
  simp only [commonUnit, Nat.pow_eq]
  positivity

/-- Counts of a unit compare as the numbers that they count. -/
theorem mul_unit_le_iff {unit : Rat} (positive : 0 < unit) {left right : Nat} :
    left * unit ≤ right * unit ↔ left ≤ right := by
  rw [mul_le_mul_iff_of_pos_right positive]
  exact Nat.cast_le

/-- Counts of a unit compare strictly as the numbers that they count. -/
theorem mul_unit_lt_iff {unit : Rat} (positive : 0 < unit) {left right : Nat} :
    left * unit < right * unit ↔ left < right := by
  rw [mul_lt_mul_iff_of_pos_right positive]
  exact Nat.cast_lt

/-- The test over natural numbers tells which decimals of a grid lie in the interval. -/
theorem holds_iff_contains {interval : RoundingInterval} {tens : Int} {coefficient : Nat} :
    interval.holds tens coefficient = true ↔
      interval.Contains (Decimal.value ⟨coefficient, tens⟩) := by
  obtain ⟨unit, positive, point, bound⟩ := exists_counts tens interval.exponent
  -- The decimal and both ends are counts of the unit.
  unfold holds Contains
  rw [point, bound, bound]
  simp only [mul_unit_le_iff positive, mul_unit_lt_iff positive]
  split <;> simp

/-- What lies between two numbers of the interval lies in it. -/
theorem Contains.between {interval : RoundingInterval} {left right number : Rat}
    (lower : interval.Contains left) (upper : interval.Contains right) (above : left ≤ number)
    (below : number ≤ right) : interval.Contains number := by
  unfold Contains at lower upper ⊢
  split at lower
  · rename_i closed
    rw [if_pos closed] at upper ⊢
    exact ⟨lower.1.trans above, below.trans upper.2⟩
  · rename_i isOpen
    rw [if_neg isOpen] at upper ⊢
    exact ⟨lower.1.trans_le above, below.trans_lt upper.2⟩

/-- The last decimal of a grid that is not above the number. -/
def floor (interval : RoundingInterval) (tens : Int) : Nat :=
  interval.value * (commonUnit tens interval.exponent).2 / (commonUnit tens interval.exponent).1

/-- The number lies between two neighbours on each grid. -/
theorem floor_le_lt (interval : RoundingInterval) (tens : Int) :
    Decimal.value ⟨interval.floor tens, tens⟩ ≤ interval.number ∧
      interval.number < Decimal.value ⟨interval.floor tens + 1, tens⟩ := by
  obtain ⟨unit, positive, point, bound⟩ := exists_counts tens interval.exponent
  rw [number, bound, point, point, mul_unit_le_iff positive, mul_unit_lt_iff positive]
  exact ⟨Nat.div_mul_le_self _ _, Nat.lt_mul_of_div_lt (Nat.lt_succ_self _) (commonUnit_pos _ _)⟩

/-- Decimals of one grid are ordered as their coefficients. -/
theorem value_le_value {tens : Int} {left right : Nat} (ordered : left ≤ right) :
    Decimal.value ⟨left, tens⟩ ≤ Decimal.value ⟨right, tens⟩ := by
  have power : (0 : Rat) ≤ 10 ^ tens := (zpow_pos (by decide) tens).le
  exact mul_le_mul_of_nonneg_right (Nat.cast_le.mpr ordered) power

/-- A decimal that is found on a grid lies in the interval. -/
theorem contains_of_nearest? {interval : RoundingInterval} {tie : Tie} {tens : Int}
    {coefficient : Nat} (found : interval.nearest? tie tens = some coefficient) :
    interval.Contains (Decimal.value ⟨coefficient, tens⟩) := by
  rw [← holds_iff_contains]
  unfold nearest? at found
  simp only at found
  split at found
  · cases found
  · rename_i below _
    rwa [← Option.some.inj found]
  · rename_i _ above
    rwa [← Option.some.inj found]
  · -- Both neighbours are in the interval, so it does not matter which of them is nearer.
    rename_i below above
    split at found
    · rwa [← Option.some.inj found]
    · rwa [← Option.some.inj found]
    · rwa [← Option.some.inj found]
    · rw [← Option.some.inj found]
      split <;> assumption

/-- If any decimal of a grid lies in the interval, so does one of the two next to the number. -/
theorem holds_floor_or_succ {interval : RoundingInterval}
    (centered : interval.Contains interval.number) {tens : Int} {coefficient : Nat}
    (inside : interval.Contains (Decimal.value ⟨coefficient, tens⟩)) :
    interval.holds tens (interval.floor tens) = true ∨
      interval.holds tens (interval.floor tens + 1) = true := by
  obtain ⟨below, above⟩ := interval.floor_le_lt tens
  simp only [holds_iff_contains]
  rcases Nat.lt_or_ge (interval.floor tens) coefficient with large | small
  · exact Or.inr (centered.between inside above.le (value_le_value large))
  · exact Or.inl (inside.between centered (value_le_value small) below)

/-- Where nothing is found on a grid, none of its decimals lies in the interval. -/
theorem not_contains_of_nearest? {interval : RoundingInterval}
    (centered : interval.Contains interval.number) {tie : Tie} {tens : Int}
    (missed : interval.nearest? tie tens = none) (coefficient : Nat) :
    ¬ interval.Contains (Decimal.value ⟨coefficient, tens⟩) := by
  intro inside
  have either := holds_floor_or_succ centered inside
  unfold floor at either
  unfold nearest? at missed
  simp only at missed
  split at missed
  · rename_i below above
    rcases either with hit | hit
    · rw [below] at hit
      cases hit
    · rw [above] at hit
      cases hit
  · cases missed
  · cases missed
  · split at missed <;> cases missed

/-- The shortest decimals of an interval are on one grid. -/
theorem Shortest.exponent_eq {interval : RoundingInterval} {left right : Decimal}
    (first : interval.Shortest left) (second : interval.Shortest right) :
    left.exponent = right.exponent := by
  rcases Int.lt_trichotomy left.exponent right.exponent with finer | same | coarser
  · exact absurd second.inside (first.coarsest right finer)
  · exact same
  · exact absurd first.inside (second.coarsest left coarser)

/-- Shortest decimals of an interval are the same if their coefficients are. -/
theorem Shortest.eq_of_coefficient_eq {interval : RoundingInterval} {left right : Decimal}
    (first : interval.Shortest left) (second : interval.Shortest right)
    (same : left.coefficient = right.coefficient) : left = right := by
  have grid := first.exponent_eq second
  cases left
  cases right
  rw [Decimal.mk.injEq]
  exact ⟨same, grid⟩

/--
The search finds a shortest decimal if there is none on a coarser grid than the first, and some on
the last.
-/
theorem search_spec {interval : RoundingInterval}
    (centered : interval.Contains interval.number) (tie : Tie) {steps : Nat} {tens : Int}
    (coarse : ∀ other : Decimal, tens < other.exponent → ¬ interval.Contains other.value)
    {coefficient : Nat} (fine : interval.Contains (Decimal.value ⟨coefficient, tens - steps⟩)) :
    let decimal := interval.search tie steps tens
    interval.Shortest decimal ∧
      interval.nearest? tie decimal.exponent = some decimal.coefficient := by
  -- The induction is on the grids still to try; those that are behind have no decimal.
  induction steps generalizing tens with
  | zero =>
    rw [search]
    cases found : interval.nearest? tie tens with
    | none =>
      rw [Int.natCast_zero, Int.sub_zero] at fine
      exact absurd fine (not_contains_of_nearest? centered found coefficient)
    | some nearest => exact ⟨⟨contains_of_nearest? found, coarse⟩, found⟩
  | succ steps ih =>
    rw [search]
    cases found : interval.nearest? tie tens with
    | none =>
      refine ih (fun other finer => ?_) ?_
      · rcases Int.lt_or_eq_of_le (Int.le_of_sub_one_lt finer) with coarser | same
        · exact coarse other coarser
        · obtain ⟨digits, exponent⟩ := other
          obtain rfl : tens = exponent := same
          exact not_contains_of_nearest? centered found digits
      · have last : tens - 1 - (steps : Int) = tens - ((steps + 1 : Nat) : Int) := by omega
        rwa [last]
    | some nearest => exact ⟨⟨contains_of_nearest? found, coarse⟩, found⟩

/-- A power of ten is at least a power of two if it is so in counts of their common unit. -/
theorem zpow_two_le_zpow_ten {tens twos : Int}
    (counts : (commonUnit tens twos).2 ≤ (commonUnit tens twos).1) :
    (2 : Rat) ^ twos ≤ 10 ^ tens := by
  obtain ⟨unit, positive, tenUnits, twoUnits⟩ := exists_unit tens twos
  rw [← tenUnits, ← twoUnits]
  exact (mul_unit_le_iff positive).mpr counts

/-- A power of two is at least a power of ten if it is so in counts of their common unit. -/
theorem zpow_ten_le_zpow_two {tens twos : Int}
    (counts : (commonUnit tens twos).1 ≤ (commonUnit tens twos).2) :
    (10 : Rat) ^ tens ≤ 2 ^ twos := by
  obtain ⟨unit, positive, tenUnits, twoUnits⟩ := exists_unit tens twos
  rw [← tenUnits, ← twoUnits]
  exact (mul_unit_le_iff positive).mpr counts

/-- The grid on which the search for a number with so many binary digits starts. -/
def firstGrid (binaryDigits : Int) : Int :=
  binaryDigits * 30103 / 100000 + 2

/-- The first grid is above all numbers with so many binary digits, and the last finer than they. -/
theorem firstGrid_bounds : ∀ place ∈ List.range 2200,
    -- Floating-point numbers have from minus 1073 to 1024 binary digits before the point.
    let digits : Int := (place : Int) - 1100
    (commonUnit (firstGrid digits) digits).2 ≤ (commonUnit (firstGrid digits) digits).1 ∧
      (commonUnit (firstGrid digits - 24) (digits - 55)).1 ≤
        (commonUnit (firstGrid digits - 24) (digits - 55)).2 := by
  decide +kernel

/-- The interval of a binary number is around that number. -/
theorem number_around (mantissa : Nat) (exponent : Int) :
    (around mantissa exponent).number = mantissa * 2 ^ exponent := by
  have two : (2 : Rat) ≠ 0 := by decide
  -- The interval counts in quarters.
  have quarters : (2 : Rat) ^ exponent = 2 ^ (exponent - 2) * 2 ^ (2 : Int) := by
    rw [← Rat.zpow_add two]
    congr 1
    omega
  have four : (2 : Rat) ^ (2 : Int) = 4 := by decide +kernel
  rw [number, around, quarters, four]
  push_cast
  ring

/-- A number between the ends of an interval lies in it. -/
theorem contains_of_lt {interval : RoundingInterval} {number : Rat}
    (lower : interval.low * 2 ^ interval.exponent < number)
    (upper : number < interval.high * 2 ^ interval.exponent) : interval.Contains number := by
  unfold Contains
  split
  · exact ⟨lower.le, upper.le⟩
  · exact ⟨lower, upper⟩

/-- What lies in an interval is between its ends. -/
theorem Contains.le_le {interval : RoundingInterval} {number : Rat}
    (inside : interval.Contains number) :
    interval.low * 2 ^ interval.exponent ≤ number ∧
      number ≤ interval.high * 2 ^ interval.exponent := by
  unfold Contains at inside
  split at inside
  · exact inside
  · exact ⟨inside.1.le, inside.2.le⟩

/-- A positive number is at least one unit away from either end, and the interval from zero. -/
theorem around_apart {mantissa : Nat} (positive : mantissa ≠ 0) (exponent : Int) :
    let interval := around mantissa exponent
    0 < interval.low ∧ interval.low + 1 ≤ interval.value ∧ interval.value < interval.high := by
  simp only [around]
  split <;> omega

/-- No decimal is the shortest one for zero, which is on every grid. -/
theorem not_shortest_zero {exponent : Int} {decimal : Decimal} :
    ¬ (around 0 exponent).Shortest decimal := by
  intro shortest
  refine shortest.coarsest ⟨0, decimal.exponent + 1⟩ (Int.lt_succ _) ?_
  have power : (0 : Rat) ≤ 2 ^ (exponent - 2) := (zpow_pos (by decide) _).le
  have zero : Decimal.value ⟨0, decimal.exponent + 1⟩ = 0 := by simp [Decimal.value]
  rw [zero]
  simp [Contains, around, Binary64.binade, power]

/-- A positive number lies in its own interval. -/
theorem contains_number {mantissa : Nat} (positive : mantissa ≠ 0) (exponent : Int) :
    (around mantissa exponent).Contains (around mantissa exponent).number := by
  obtain ⟨-, below, above⟩ := around_apart positive exponent
  have unit : (0 : Rat) < 2 ^ (around mantissa exponent).exponent := zpow_pos (by decide) _
  exact contains_of_lt ((mul_unit_lt_iff unit).mpr below) ((mul_unit_lt_iff unit).mpr above)

/-- A decimal other than zero is at least the unit of its grid. -/
theorem zpow_le_value {coefficient : Nat} (positive : coefficient ≠ 0) (tens : Int) :
    (10 : Rat) ^ tens ≤ Decimal.value ⟨coefficient, tens⟩ := by
  have power : (0 : Rat) ≤ 10 ^ tens := (zpow_pos (by decide) tens).le
  have one : (1 : Rat) ≤ coefficient := Nat.one_le_cast.mpr (Nat.one_le_iff_ne_zero.mpr positive)
  exact le_mul_of_one_le_left power one

/-- The interval ends below the next power of two. -/
theorem high_lt_zpow (mantissa : Nat) (exponent : Int) :
    (around mantissa exponent).high * (2 : Rat) ^ (around mantissa exponent).exponent <
      2 ^ (mantissa.log2 + 1 + exponent) := by
  have two : (2 : Rat) ≠ 0 := by decide
  have split : (mantissa.log2 + 1 + exponent : Int) =
      ((mantissa.log2 + 3 : Nat) : Int) + (exponent - 2) := by omega
  have small : mantissa < 2 ^ (mantissa.log2 + 1) := Nat.lt_log2_self
  have below : 4 * mantissa + 2 < 2 ^ (mantissa.log2 + 3) := by
    rw [Nat.pow_succ, Nat.pow_succ]
    omega
  rw [split, Rat.zpow_add two, Rat.zpow_natCast]
  refine mul_lt_mul_of_pos_right ?_ (zpow_pos (by decide) _)
  exact_mod_cast below

/-- No decimal on a coarser grid than the first one rounds to the number. -/
theorem not_contains_of_coarse {mantissa : Nat} {exponent : Int} (positive : mantissa ≠ 0)
    {tens : Int} (large : (2 : Rat) ^ (mantissa.log2 + 1 + exponent) ≤ 10 ^ tens)
    (other : Decimal) (coarser : tens < other.exponent) :
    ¬ (around mantissa exponent).Contains other.value := by
  intro inside
  obtain ⟨low, high⟩ := inside.le_le
  obtain ⟨coefficient, place⟩ := other
  by_cases zero : coefficient = 0
  · -- The interval does not reach down to zero.
    obtain ⟨apart, -, -⟩ := around_apart positive exponent
    have unit : (0 : Rat) < 2 ^ (around mantissa exponent).exponent := zpow_pos (by decide) _
    have above := mul_pos (Nat.cast_pos.mpr apart) unit
    rw [zero, Decimal.value, Nat.cast_zero, zero_mul] at low
    exact absurd low above.not_ge
  · have grids : (10 : Rat) ^ tens ≤ 10 ^ place := zpow_le_zpow_right₀ (by decide) coarser.le
    have value := grids.trans (zpow_le_value zero place)
    exact absurd (value.trans high) ((high_lt_zpow mantissa exponent).trans_le large).not_ge

/-- On a grid that is finer than the last place, a decimal rounds to the number. -/
theorem contains_floor {mantissa : Nat} {exponent : Int} (positive : mantissa ≠ 0) {tens : Int}
    (small : (10 : Rat) ^ tens ≤ 2 ^ (exponent - 2)) :
    (around mantissa exponent).Contains
      (Decimal.value ⟨(around mantissa exponent).floor tens, tens⟩) := by
  obtain ⟨-, room, above⟩ := around_apart positive exponent
  obtain ⟨below, next⟩ := (around mantissa exponent).floor_le_lt tens
  have unit : (0 : Rat) < 2 ^ (around mantissa exponent).exponent := zpow_pos (by decide) _
  refine contains_of_lt ?_ (below.trans_lt ((mul_unit_lt_iff unit).mpr above))
  have low := (mul_unit_le_iff unit).mpr room
  have grid : (10 : Rat) ^ tens ≤ 2 ^ (around mantissa exponent).exponent := small
  -- One step of the grid up from the decimal is beyond the number.
  have step : Decimal.value ⟨(around mantissa exponent).floor tens + 1, tens⟩ =
      Decimal.value ⟨(around mantissa exponent).floor tens, tens⟩ + 10 ^ tens := by
    rw [Decimal.value, Decimal.value]
    push_cast
    ring
  rw [step, number] at next
  rw [Nat.cast_add, Nat.cast_one, add_mul, one_mul] at low
  linarith

end RoundingInterval

open RoundingInterval

/-- The parts of a finite number are in the ranges of their fields. -/
theorem Binary64.bounds_of_finite {number : Float} {negative : Bool} {mantissa : Nat}
    {exponent : Int} (finite : ofFloat number = .finite negative mantissa exponent) :
    mantissa < 2 * binade ∧ leastExponent ≤ exponent ∧ exponent ≤ 971 := by
  unfold ofFloat at finite
  simp only at finite
  have room : 0 < binade := by decide
  have small := Nat.mod_lt number.toBits.toNat room
  have field := Nat.mod_lt (number.toBits.toNat / binade) (by decide : 0 < 2048)
  have least : leastExponent = -1074 := rfl
  split at finite
  · split at finite <;> cases finite
  · split at finite
    · obtain ⟨-, rfl, rfl⟩ := Binary64.finite.inj finite
      omega
    · obtain ⟨-, rfl, rfl⟩ := Binary64.finite.inj finite
      omega

/-- The decimal that is chosen for a number is a shortest one, and the nearest on its grid. -/
theorem shortest_spec {number : Float} {negative : Bool} {mantissa : Nat} {exponent : Int}
    (finite : Binary64.ofFloat number = .finite negative mantissa exponent)
    (positive : mantissa ≠ 0) (tie : Tie) :
    let interval := RoundingInterval.around mantissa exponent
    let decimal := shortest tie mantissa exponent
    interval.Shortest decimal ∧
      interval.nearest? tie decimal.exponent = some decimal.coefficient := by
  obtain ⟨size, least, most⟩ := Binary64.bounds_of_finite finite
  have start : Binary64.leastExponent = -1074 := rfl
  have digits : mantissa.log2 < 53 := (Nat.log2_lt positive).mpr size
  -- The grids are bounded by the number of binary digits.
  obtain ⟨place, binaryDigits⟩ : ∃ place : Nat,
      (mantissa.log2 + 1 + exponent : Int) = (place : Int) - 1100 :=
    ⟨(mantissa.log2 + 1 + exponent + 1100).toNat, by omega⟩
  have bounds := firstGrid_bounds place (List.mem_range.mpr (by omega))
  simp only [← binaryDigits] at bounds
  obtain ⟨coarse, fine⟩ := bounds
  have places : (2 : Rat) ^ (mantissa.log2 + 1 + exponent - 55 : Int) ≤ 2 ^ (exponent - 2) :=
    zpow_le_zpow_right₀ (by decide) (by omega)
  exact search_spec (contains_number positive exponent) tie
    (not_contains_of_coarse positive (zpow_two_le_zpow_ten coarse))
    (contains_floor positive ((zpow_ten_le_zpow_two fine).trans places))

end TwoBody
