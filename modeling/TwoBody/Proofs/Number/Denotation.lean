import TwoBody.Proofs.Number.Shortest

/-!
Denotations: what the text of a number tells about it.

For a finite number, plain text and JSON each have its sign and a shortest decimal that rounds to
it. Plain text has a word for what is infinite or not a number, and JSON has null.
-/

namespace TwoBody

open RoundingInterval

/-- A text tells a finite number: it denotes a decimal that rounds to the number. -/
inductive Denotes (negative : Bool) (mantissa : Nat) (exponent : Int) (text : String) : Prop where
  /-- The number is zero, and so is the decimal; both have the same sign. -/
  | zero (none : mantissa = 0) (written : exactNumber? text.toList = some (negative, 0))
  /-- No shorter decimal rounds to the number, and the text has its sign. -/
  | shortest {decimal : Decimal} (shortest : (around mantissa exponent).Shortest decimal)
      (written : exactNumber? text.toList = some (negative, decimal.value))

/-- A text tells a number outside JSON. -/
def PlainText (number : Float) (text : String) : Prop :=
  match Binary64.ofFloat number with
  | .nan => text = "NaN"
  | .infinite false => text = "inf"
  | .infinite true => text = "-inf"
  | .finite negative mantissa exponent => Denotes negative mantissa exponent text

/-- A text tells a number in JSON, which has no infinities. -/
def JsonText (number : Float) (text : String) : Prop :=
  match Binary64.ofFloat number with
  | .nan => text = "null"
  | .infinite _ => text = "null"
  | .finite negative mantissa exponent => Denotes negative mantissa exponent text

namespace Layout

/-- What an exact layout writes for a finite number tells that number. -/
theorem Exact.denotes_render {layout : Layout} (exact : layout.Exact) {number : Float}
    {negative : Bool} {mantissa : Nat} {exponent : Int}
    (finite : Binary64.ofFloat number = .finite negative mantissa exponent) :
    Denotes negative mantissa exponent (layout.render number) := by
  have written := exact.exactNumber?_render finite
  unfold Layout.decimal at written
  by_cases zero : mantissa = 0
  · -- A zero is written without a search.
    rw [if_pos zero, Decimal.value, Nat.cast_zero, zero_mul] at written
    exact .zero zero written
  · rw [if_neg zero] at written
    exact .shortest (shortest_spec finite zero layout.tie).1 written

/-- The plain text of a number tells that number. -/
theorem plainText_render (number : Float) : PlainText number (plain.render number) := by
  unfold PlainText
  split
  · rename_i apart
    rw [render, apart]
    rfl
  · rename_i apart
    rw [render, apart]
    rfl
  · rename_i apart
    rw [render, apart]
    rfl
  · rename_i apart
    exact plain_exact.denotes_render apart

/-- The JSON text of a number tells that number. -/
theorem jsonText_render (number : Float) : JsonText number (json.render number) := by
  unfold JsonText
  split
  · rename_i apart
    rw [render, apart]
    rfl
  · rename_i apart
    rw [render, apart]
    rfl
  · rename_i apart
    exact json_exact.denotes_render apart

end Layout

end TwoBody
