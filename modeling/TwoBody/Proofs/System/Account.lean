import TwoBody.Proofs.System.Retention
import TwoBody.Proofs.System.Work

/-!
Account: what an addition tells about itself is what it did.

Nothing is assumed about the formulas, which may be ready at any time and yield any binding. The
formulas that fire are exactly the ones that are retired, and each of them yields one binding at
most.
-/

namespace TwoBody

open Std

variable {K V : Type} [Ord K] [TransOrd K]

namespace Bindings

/-- The variables that are known later on but not before, in order. -/
def newly (known later : Bindings K V) : List K :=
  later.keys.filter fun name => name ∉ known

/-- A variable is newly known if it is known later on and was not before. -/
@[simp] theorem mem_newly [LawfulEqOrd K] {known later : Bindings K V} {name : K} :
    name ∈ known.newly later ↔ name ∈ later ∧ name ∉ known := by
  simp [newly]

/-- No variable is newly known twice. -/
theorem nodup_newly (known later : Bindings K V) : (known.newly later).Nodup := by
  -- Different keys of a map do not even compare equal.
  have distinct : later.keys.Nodup := by
    refine later.distinct_keys.imp fun {first second} apart same => apart ?_
    rw [same]
    exact ReflCmp.compare_self
  exact distinct.filter _

/-- Adding bindings makes one variable newly known for each of them at most. -/
theorem length_newly_merge_le [LawfulEqOrd K] (known : Bindings K V) (added : List (K × V)) :
    (known.newly (known.merge added)).length ≤ added.length := by
  -- Each new variable is the name of one of the bindings.
  have named : known.newly (known.merge added) ⊆ added.map Prod.fst := by
    intro name new
    obtain ⟨member, unknown⟩ := mem_newly.mp new
    obtain ⟨value, given⟩ := (mem_merge.mp member).resolve_left unknown
    exact List.mem_map.mpr ⟨(name, value), given, rfl⟩
  simpa using (nodup_newly known _).length_le_of_subset named

end Bindings

namespace System

/-- All formulas that fire in the passes of a saturation, in order. -/
def fired (system : System K V) : List (Formula K V) :=
  system.passes.flatMap Pass.fired

/-- What fires in a saturation fires in its first pass or in those after it. -/
theorem fired_eq (system : System K V) :
    system.fired = (Pass.scan system.known system.pending).fired ++
      if (Pass.scan system.known system.pending).derived = [] then []
      else system.afterPass.fired := by
  rw [fired, passes_eq, List.flatMap_cons]
  split
  · rfl
  · rfl

/-- A saturation retires the formulas that fire in it, and no others. -/
theorem perm_fired_append_pending (system : System K V) :
    (system.fired ++ system.saturated.pending).Perm system.pending := by
  have first := Pass.perm_fired_append_waiting system.known system.pending
  induction system using saturated_induction with
  | idle system derives =>
    rw [fired_eq, saturated_eq, if_pos derives, if_pos derives, List.append_nil]
    exact first
  | productive system derives ih =>
    rw [fired_eq, saturated_eq, if_neg derives, if_neg derives, List.append_assoc]
    -- The passes after the first one go over the formulas that it leaves waiting.
    have others := ih (Pass.perm_fired_append_waiting _ _)
    exact (others.append_left _).trans first

/-- A saturation derives one binding for each formula that fires at most. -/
theorem length_derived_le_fired (system : System K V) :
    system.derived.length ≤ system.fired.length := by
  have first := Pass.length_derived_le_fired system.known system.pending
  induction system using saturated_induction with
  | idle system derives =>
    rw [derived_eq, fired_eq, if_pos derives, if_pos derives, List.append_nil, List.append_nil]
    exact first
  | productive system derives ih =>
    have others := ih (Pass.length_derived_le_fired _ _)
    rw [derived_eq, fired_eq, if_neg derives, if_neg derives, List.length_append,
      List.length_append]
    omega

/-- A saturation leaves fewer formulas pending by those that fire in it. -/
theorem length_fired_add_pending (system : System K V) :
    system.fired.length + system.saturated.pending.length = system.pending.length := by
  simpa using system.perm_fired_append_pending.length_eq

/-- An addition is said to retire a formula if one fires in it. -/
theorem retires_eq_true_iff {system : System K V} {supplied : List (K × V)} :
    system.retires supplied = true ↔ (system.supply supplied).fired ≠ [] := by
  simp [retires, fired, List.flatMap_eq_nil_iff]

/-- A saturation in which no formula fires changes nothing. -/
theorem saturated_of_fired {system : System K V} (none : system.fired = []) :
    system.saturated = system := by
  -- Without firings, nothing is derived and nothing retired.
  have derives : system.derived = [] := by
    simpa [none] using system.length_derived_le_fired
  have known : system.saturated.known = system.known := by
    rw [known_saturated, derives, Bindings.merge_nil]
  have pending : system.saturated.pending = system.pending := by
    refine (settles_saturated system).pending_sublist.eq_of_length ?_
    simpa [none] using system.length_fired_add_pending
  calc system.saturated
      _ = ⟨system.saturated.known, system.saturated.pending⟩ := rfl
      _ = system := by rw [known, pending]

/--
An addition accounts exactly for what it did, in any state of the system.

It leaves some of the pending formulas pending, in the same order. It retires those that fire in its
passes, and tells that there is one exactly if fewer are pending afterwards. If it retires none, the
supplied bindings are all that changes. At most one variable for each retired formula is newly known
without being supplied.
-/
theorem add_accounted [LawfulEqOrd K] (system : System K V) (supplied : List (K × V)) :
    let start := system.supply supplied
    let later := system.add supplied
    let gained := start.known.newly later.known
    later.pending.Sublist system.pending ∧
    (start.fired ++ later.pending).Perm system.pending ∧
    (system.retires supplied = true ↔ later.pending.length < system.pending.length) ∧
    (system.retires supplied = false →
      later.pending = system.pending ∧ later.known = system.known.merge supplied) ∧
    gained.Nodup ∧
    (∀ name, name ∈ gained ↔
      name ∈ later.known ∧ name ∉ system.known ∧ ∀ value, (name, value) ∉ supplied) ∧
    gained.length ≤ system.pending.length - later.pending.length := by
  intro start later gained
  have total : start.fired.length + later.pending.length = system.pending.length :=
    start.length_fired_add_pending
  refine ⟨(settles_add system supplied).pending_sublist, start.perm_fired_append_pending, ?_, ?_,
    Bindings.nodup_newly _ _, ?_, ?_⟩
  · have fires : system.retires supplied = true ↔ 0 < start.fired.length := by
      rw [retires_eq_true_iff, ← List.length_pos_iff]
    rw [fires]
    omega
  · intro quiet
    -- No formula fires, so the addition ends where its passes start.
    have none : start.fired = [] := by
      by_contra some
      simp [retires_eq_true_iff.mpr some] at quiet
    have same : later = start := saturated_of_fired none
    rw [same]
    exact ⟨rfl, rfl⟩
  · intro name
    have before : name ∈ start.known ↔ name ∈ system.known ∨ ∃ value, (name, value) ∈ supplied :=
      Bindings.mem_merge
    rw [Bindings.mem_newly, before, not_or, not_exists]
  · -- What is newly known is derived, and what is derived is yielded by a formula that fires.
    have known : later.known = start.known.merge start.derived := known_saturated start
    have derived := start.length_derived_le_fired
    have bound : gained.length ≤ start.derived.length := by
      simp only [gained, known]
      exact Bindings.length_newly_merge_le start.known start.derived
    omega

/--
An addition can retire more formulas than it makes variables newly known.

Here the first formula yields a new value for a known variable, the second one yields a variable
that it does not declare, and the third one yields nothing. They fire in two passes, the first one
last. The addition after that replaces a value as well, but retires nothing.
-/
theorem add_accounted_foreign :
    let formulas : List (Formula Nat Nat) :=
      [{ declared := [1], solve := fun _ => some (0, 10), ready := fun known => 7 ∈ known },
       { declared := [2], solve := fun _ => some (7, 20), ready := fun known => 0 ∈ known },
       { declared := [3], solve := fun _ => none, ready := fun known => 7 ∈ known },
       { declared := [4], solve := fun _ => some (4, 40), ready := fun known => 9 ∈ known }]
    let system := (ofFormulas formulas).run [[(5, 50)]]
    let later := system.add [(0, 1), (0, 2)]
    let gained := (system.supply [(0, 1), (0, 2)]).known.newly later.known
    system.pending.map Formula.declared = [[1], [2], [3], [4]] ∧
    later.pending.map Formula.declared = [[4]] ∧ later.pending.Sublist system.pending ∧
    system.retires [(0, 1), (0, 2)] = true ∧
    gained = [7] ∧ gained.length ≤ system.pending.length - later.pending.length ∧
    later.retires [(0, 3)] = false ∧
    (later.add [(0, 3)]).pending = later.pending ∧
    (later.add [(0, 3)]).known = later.known.merge [(0, 3)] := by
  intro formulas system later gained
  obtain ⟨sublist, -, retires, -, -, -, bounded⟩ := add_accounted system [(0, 1), (0, 2)]
  obtain ⟨-, -, -, unchanged, -⟩ := add_accounted later [(0, 3)]
  have fewer : later.pending.length < system.pending.length := by decide +kernel
  have quiet : later.retires [(0, 3)] = false := by decide +kernel
  obtain ⟨pending, known⟩ := unchanged quiet
  exact ⟨by decide +kernel, by decide +kernel, sublist, retires.mpr fewer, by decide +kernel,
    bounded, quiet, pending, known⟩

end System

end TwoBody
