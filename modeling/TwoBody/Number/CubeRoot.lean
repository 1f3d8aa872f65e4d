import TwoBody.Number.Binary64

/-! Cube roots: the whole part for natural numbers, the nearest neighbour for floating point. -/

namespace TwoBody

/-- A number times itself times itself. -/
def cubed {α : Type} [Mul α] (number : α) : α :=
  number * number * number

/-- The largest natural number whose cube is at most the given one, binary digit by digit. -/
def natCubeRoot (number : Nat) : Nat :=
  if number = 0 then 0
  else
    -- Dropping three binary digits of a cube drops one digit of its root.
    let root := 2 * natCubeRoot (number / 8)
    if cubed (root + 1) ≤ number then root + 1 else root
termination_by number

/-- The whole cube root is the number between whose cube and the next one a number lies. -/
theorem natCubeRoot_bounds (number : Nat) :
    cubed (natCubeRoot number) ≤ number ∧ number < cubed (natCubeRoot number + 1) := by
  -- The root of an eighth, doubled, falls short of the root by one at most.
  induction number using Nat.strongRecOn with
  | ind number ih =>
    rw [natCubeRoot]
    split
    · simp_all [cubed]
    · obtain ⟨below, above⟩ := ih (number / 8) (by omega)
      have doubled (root : Nat) : cubed (2 * root) = 8 * cubed root := by grind [cubed]
      have least := doubled (natCubeRoot (number / 8))
      have next : cubed (2 * natCubeRoot (number / 8) + 1 + 1) =
          8 * cubed (natCubeRoot (number / 8) + 1) := doubled (natCubeRoot (number / 8) + 1)
      dsimp only
      split <;> omega

/--
The floating-point number nearest to the exact cube root.

The mantissa is scaled so that its root has 54 binary digits, one more than a result has room for.
No root lies halfway between two results, as the cube of an odd root of that length is odd and the
scaled mantissa is even, so the extra digit alone decides the rounding.
-/
def cubeRoot (number : Float) : Float :=
  match Binary64.ofFloat number with
  | .finite negative mantissa exponent =>
    if mantissa = 0 then number
    else
      let least : Int := 160 - (mantissa.log2 + 1)
      -- The exponent that is left over has to be a multiple of three.
      let shift := least + (exponent - least) % 3
      let root := natCubeRoot (mantissa <<< shift.toNat)
      Binary64.pack negative ((root + 1) / 2) ((exponent - shift) / 3 + 1)
  | _ => number

end TwoBody
