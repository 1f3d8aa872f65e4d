import Std.Data.ExtTreeMap
import TwoBody.Inspect

/-! Bindings: a finite map from variable names to values, listed in the order of the names. -/

namespace TwoBody

open Std

/-- The known values of variables, at most one for each name. -/
abbrev Bindings (K V : Type) [Ord K] : Type :=
  ExtTreeMap K V compare

namespace Bindings

variable {K V : Type} [Ord K] [TransOrd K]

/-- Adding bindings in order lets a later value of a name replace an earlier one. -/
def merge (known : Bindings K V) (supplied : List (K × V)) : Bindings K V :=
  supplied.foldl (fun known binding => known.insert binding.1 binding.2) known

/-- The bindings in a list, the last value of each name winning. -/
def ofList (supplied : List (K × V)) : Bindings K V :=
  merge ∅ supplied

/-- Adding no bindings changes nothing. -/
@[simp] theorem merge_nil (known : Bindings K V) : known.merge [] = known := rfl

/-- The first supplied binding is inserted before the others. -/
@[simp] theorem merge_cons (known : Bindings K V) (binding : K × V) (rest : List (K × V)) :
    known.merge (binding :: rest) = merge (known.insert binding.1 binding.2) rest := rfl

/-- Adding two lists one after the other adds their concatenation. -/
theorem merge_append (known : Bindings K V) (front back : List (K × V)) :
    known.merge (front ++ back) = merge (known.merge front) back := by
  simp [merge, List.foldl_append]

/-- Bindings are shown between braces, `name: value`, in the order of the names. -/
instance [Inspect K] [Inspect V] : Inspect (Bindings K V) where
  inspect known :=
    let entries := known.toList.map fun binding => inspect binding.1 ++ ": " ++ inspect binding.2
    "\x7b" ++ String.intercalate ", " entries ++ "\x7d"

end Bindings

end TwoBody
