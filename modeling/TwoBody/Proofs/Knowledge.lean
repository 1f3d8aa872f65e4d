import TwoBody.Bindings

/-!
Growing knowledge: later bindings know more variables, and may keep the earlier values.

What holds of each known binding holds of each one later on if it holds of those that are added.
-/

namespace TwoBody.Bindings

open Std

variable {K V : Type} [Ord K] [TransOrd K]

/-- Every variable that is known has a value later on too, perhaps another one. -/
def Within (known later : Bindings K V) : Prop :=
  -- Only the names are compared.
  ∀ name : K, name ∈ known → name ∈ later

/-- Every variable that is known still has the same value later on. -/
def KeptIn (known later : Bindings K V) : Prop :=
  -- A variable that is not known yet may get any value.
  ∀ (name : K) (value : V), known[name]? = some value → later[name]? = some value

/-- Bindings know the variables they know. -/
theorem Within.refl (known : Bindings K V) : known.Within known :=
  fun _ member => member

/-- Knowing more variables is transitive. -/
theorem Within.trans {first second third : Bindings K V} (early : first.Within second)
    (late : second.Within third) : first.Within third :=
  fun name member => late name (early name member)

/-- Bindings keep their own values. -/
theorem KeptIn.refl (known : Bindings K V) : known.KeptIn known :=
  fun _ _ found => found

/-- Keeping values is transitive. -/
theorem KeptIn.trans {first second third : Bindings K V} (early : first.KeptIn second)
    (late : second.KeptIn third) : first.KeptIn third :=
  fun name value found => late name value (early name value found)

/-- Whoever keeps the values knows the variables. -/
theorem KeptIn.within {known later : Bindings K V} (kept : known.KeptIn later) :
    known.Within later := by
  intro name member
  -- A known variable has a value, which is still there later.
  have found := ExtTreeMap.getElem?_eq_some_getElem (t := known) member
  have after := kept name known[name] found
  exact (ExtTreeMap.getElem?_eq_some_iff.mp after).1

/-- The value of a known variable is the one it has later on. -/
theorem KeptIn.getElem?_eq {known later : Bindings K V} (kept : known.KeptIn later) {name : K}
    (member : name ∈ known) : later[name]? = known[name]? := by
  -- Both sides are the value that it has now.
  have found := ExtTreeMap.getElem?_eq_some_getElem (t := known) member
  rw [found, kept name known[name] found]

/-- Adding bindings makes known the variables they name, and forgets none. -/
theorem mem_merge_iff_compare {known : Bindings K V} {supplied : List (K × V)} {name : K} :
    name ∈ known.merge supplied ↔
      name ∈ known ∨ ∃ binding ∈ supplied, compare binding.1 name = .eq := by
  -- The induction is on the bindings still to add, so it is open to what is known by then.
  induction supplied generalizing known with
  | nil => simp
  | cons binding rest ih =>
    rw [merge_cons, ih, ExtTreeMap.mem_insert]
    -- The first binding adds its own name to those already there.
    simp only [List.mem_cons, exists_eq_or_imp]
    rw [or_assoc, or_left_comm]

/-- With an order that tells all names apart, the added variables are those of the bindings. -/
theorem mem_merge [LawfulEqOrd K] {known : Bindings K V} {supplied : List (K × V)} {name : K} :
    name ∈ known.merge supplied ↔ name ∈ known ∨ ∃ value, (name, value) ∈ supplied := by
  rw [mem_merge_iff_compare]
  refine or_congr_right ⟨?_, ?_⟩
  · -- A binding whose name compares equal has this very name.
    rintro ⟨⟨other, value⟩, member, same⟩
    have named : other = name := LawfulEqCmp.compare_eq_iff_eq.mp same
    exact ⟨value, named ▸ member⟩
  · -- A name compares equal to itself.
    rintro ⟨value, member⟩
    exact ⟨(name, value), member, ReflCmp.compare_self⟩

/-- The name of an added binding is known. -/
theorem mem_merge_of_mem (known : Bindings K V) {supplied : List (K × V)} {binding : K × V}
    (member : binding ∈ supplied) : binding.1 ∈ known.merge supplied :=
  mem_merge_iff_compare.mpr (Or.inr ⟨binding, member, ReflCmp.compare_self⟩)

/-- A variable that no added binding names keeps its value, or stays unknown. -/
theorem getElem?_merge_of_unnamed {known : Bindings K V} {supplied : List (K × V)} {name : K}
    (unnamed : ∀ binding ∈ supplied, compare binding.1 name ≠ .eq) :
    (known.merge supplied)[name]? = known[name]? := by
  -- No insertion of the fold is at this name.
  induction supplied generalizing known with
  | nil => rfl
  | cons binding rest ih =>
    rw [merge_cons, ih fun other member => unnamed other (List.mem_cons_of_mem _ member),
      ExtTreeMap.getElem?_insert, if_neg (unnamed binding List.mem_cons_self)]

/-- Something holds of each known variable with its value. -/
def Each (holds : K × V → Prop) (known : Bindings K V) : Prop :=
  -- Nothing is said about the variables that are not known.
  ∀ (name : K) (value : V), known[name]? = some value → holds (name, value)

/-- Where nothing is known, anything holds of each known binding. -/
theorem each_empty (holds : K × V → Prop) : Each holds (∅ : Bindings K V) := by
  intro name value found
  simp at found

/-- Adding bindings of a kind to bindings of this kind leaves each of them so. -/
theorem Each.merge [LawfulEqOrd K] {holds : K × V → Prop} {known : Bindings K V}
    (each : known.Each holds) {supplied : List (K × V)}
    (added : ∀ binding ∈ supplied, holds binding) : (known.merge supplied).Each holds := by
  -- The induction is on the bindings still to add.
  induction supplied generalizing known with
  | nil => exact each
  | cons binding rest ih =>
    refine ih ?_ fun other member => added other (List.mem_cons_of_mem _ member)
    intro name value found
    rw [ExtTreeMap.getElem?_insert] at found
    split at found
    · -- The value that was found is the one that was added last.
      rename_i same
      rw [← LawfulEqCmp.compare_eq_iff_eq.mp same, ← Option.some.inj found]
      exact added binding List.mem_cons_self
    · -- Otherwise the value was there before.
      exact each name value found

/-- Adding bindings forgets no variable. -/
theorem within_merge (known : Bindings K V) (supplied : List (K × V)) :
    known.Within (known.merge supplied) :=
  fun _ member => mem_merge_iff_compare.mpr (Or.inl member)

/-- Adding bindings of unknown variables changes no value. -/
theorem keptIn_merge {known : Bindings K V} {supplied : List (K × V)}
    (fresh : ∀ binding ∈ supplied, binding.1 ∉ known) : known.KeptIn (known.merge supplied) := by
  intro name value found
  have present : name ∈ known := (ExtTreeMap.getElem?_eq_some_iff.mp found).1
  -- A variable with a value cannot have the name of a fresh binding.
  have unnamed : ∀ binding ∈ supplied, compare binding.1 name ≠ .eq := by
    intro binding member same
    exact fresh binding member ((ExtTreeMap.mem_congr same).mpr present)
  rw [getElem?_merge_of_unnamed unnamed, found]

end TwoBody.Bindings
