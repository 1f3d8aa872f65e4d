import TwoBody.Proofs.System.Closure
import TwoBody.Proofs.System.Freshness

/-!
Retention: what a system derives never takes the place of a known value.

So a variable has the value that was supplied for it last, or the one that was derived for it while
nobody had supplied any, and it is never forgotten.
-/

namespace TwoBody

open Std

variable {K V : Type}

/-- The value is the one that a run supplies last for the variable. -/
def LastSupplied (additions : List (List (K × V))) (name : K) (value : V) : Prop :=
  -- The additions count in order, and so do the bindings of each of them.
  ∃ front back, additions.flatten = front ++ (name, value) :: back ∧
    ∀ binding ∈ back, binding.1 ≠ name

/-- The last supply of a variable is in the later additions, or in the first one before those. -/
theorem LastSupplied.of_cons {supplied : List (K × V)} {rest : List (List (K × V))} {name : K}
    {value : V} (last : LastSupplied (supplied :: rest) name value) :
    LastSupplied rest name value ∨ name ∉ Supplied rest ∧
      ∃ front back, supplied = front ++ (name, value) :: back ∧
        ∀ binding ∈ back, binding.1 ≠ name := by
  obtain ⟨front, back, split, none⟩ := last
  rw [List.flatten_cons] at split
  rcases List.append_eq_append_iff.mp split with ⟨between, -, rest⟩ | ⟨between, first, rest⟩
  · exact Or.inl ⟨between, back, rest, none⟩
  · cases between with
    | nil => exact Or.inl ⟨[], back, rest.symm, none⟩
    | cons binding between =>
      obtain ⟨rfl, rfl⟩ := List.cons.inj rest
      refine Or.inr ⟨?_, front, between, first, fun binding member =>
        none binding (List.mem_append_left _ member)⟩
      -- All bindings of the later additions come after this one.
      rintro ⟨later, member, other, given⟩
      exact none (name, other) (List.mem_append_right _ (List.mem_flatten_of_mem member given)) rfl

/-- What the later additions supply last is supplied last. -/
theorem LastSupplied.append {later : List (List (K × V))} {name : K} {value : V}
    (last : LastSupplied later name value) (earlier : List (List (K × V))) :
    LastSupplied (earlier ++ later) name value := by
  obtain ⟨front, back, split, none⟩ := last
  refine ⟨earlier.flatten ++ front, back, ?_, none⟩
  rw [List.flatten_append, split, List.append_assoc]

variable [Ord K] [TransOrd K]

namespace Bindings

/-- Each of the bindings is for a variable without a value when its turn comes to be added. -/
def AllNew (known : Bindings K V) : List (K × V) → Prop
  | [] => True
  -- A binding is known to those that are added after it.
  | binding :: rest => binding.1 ∉ known ∧ AllNew (known.insert binding.1 binding.2) rest

/-- Lists of new bindings that are added one after the other make up a list of new bindings. -/
theorem allNew_append {known : Bindings K V} {front back : List (K × V)} :
    known.AllNew (front ++ back) ↔ known.AllNew front ∧ (known.merge front).AllNew back := by
  -- The induction is on the bindings in front, which are known to those at the back.
  induction front generalizing known with
  | nil => simp [AllNew]
  | cons binding rest ih =>
    rw [List.cons_append, AllNew, AllNew, ih, merge_cons, and_assoc]

/-- Adding new bindings changes no known value. -/
theorem AllNew.keptIn {known : Bindings K V} {added : List (K × V)} (new : known.AllNew added) :
    known.KeptIn (known.merge added) := by
  induction added generalizing known with
  | nil => exact .refl known
  | cons binding rest ih =>
    -- The first binding is for an unknown variable, and the others change nothing either.
    have first : known.KeptIn (known.merge [binding]) :=
      keptIn_merge fun other member => by rw [List.mem_singleton.mp member]; exact new.1
    exact first.trans (ih new.2)

/-- Each new binding gives its variable the value that is known after all of them are added. -/
theorem AllNew.getElem?_eq {known : Bindings K V} {added : List (K × V)}
    (new : known.AllNew added) {name : K} {value : V} (member : (name, value) ∈ added) :
    (known.merge added)[name]? = some value := by
  -- The bindings after it are new when it is known already, so they leave its value alone.
  obtain ⟨front, back, rfl⟩ := List.append_of_mem member
  have after : AllNew ((known.merge front).insert name value) back := (allNew_append.mp new).2.2
  rw [merge_append, merge_cons]
  exact after.keptIn name value (by simp)

/-- The value of the last binding for a variable is the one that is known in the end. -/
theorem getElem?_merge_of_last [LawfulEqOrd K] {known : Bindings K V} {front back : List (K × V)}
    {name : K} {value : V} (last : ∀ binding ∈ back, binding.1 ≠ name) :
    (known.merge (front ++ (name, value) :: back))[name]? = some value := by
  -- No binding after it is for this variable.
  have unnamed : ∀ binding ∈ back, compare binding.1 name ≠ .eq :=
    fun binding member same => last binding member (LawfulEqCmp.compare_eq_iff_eq.mp same)
  rw [merge_append, merge_cons, getElem?_merge_of_unnamed unnamed]
  simp

end Bindings

/-- A pass over additive formulas derives new bindings only. -/
theorem Pass.allNew_derived {formulas : List (Formula K V)}
    (additive : ∀ formula ∈ formulas, formula.Additive) (known : Bindings K V) :
    known.AllNew (scan known formulas).derived := by
  induction formulas generalizing known with
  | nil => trivial
  | cons formula rest ih =>
    have others : ∀ other ∈ rest, other.Additive :=
      fun other member => additive other (List.mem_cons_of_mem _ member)
    cases ready : formula.ready known with
    | true =>
      rw [scan_cons_ready ready]
      refine Bindings.allNew_append.mpr ⟨?_, ih others (formula.fire known)⟩
      -- What the formula yields, if it yields a binding, is for an unknown variable.
      cases yields : formula.solve known with
      | none => trivial
      | some binding => exact ⟨additive formula List.mem_cons_self known _ _ yields, trivial⟩
    | false =>
      rw [scan_cons_unready ready]
      exact ih others known

namespace System

/-- All bindings that the passes of a saturation derive, in order. -/
def derived (system : System K V) : List (K × V) :=
  system.passes.flatMap Pass.derived

/-- What is derived in a saturation is derived in its first pass or in those after it. -/
theorem derived_eq (system : System K V) :
    system.derived = (Pass.scan system.known system.pending).derived ++
      if (Pass.scan system.known system.pending).derived = [] then []
      else system.afterPass.derived := by
  rw [derived, passes_eq, List.flatMap_cons]
  split
  · rfl
  · rfl

/-- A saturation adds what it derives to the known bindings, and nothing else. -/
theorem known_saturated (system : System K V) :
    system.saturated.known = system.known.merge system.derived := by
  induction system using saturated_induction with
  | idle system derives =>
    rw [saturated_eq, derived_eq, if_pos derives, if_pos derives, derives,
      known_afterPass_of_idle derives]
    rfl
  | productive system derives ih =>
    -- The passes after the first one go on from what it made known.
    rw [saturated_eq, derived_eq, if_neg derives, if_neg derives, ih, Bindings.merge_append,
      ← Pass.known_scan]
    rfl

/-- A saturation of additive formulas derives new bindings only. -/
theorem allNew_derived (system : System K V)
    (additive : ∀ formula ∈ system.pending, formula.Additive) :
    system.known.AllNew system.derived := by
  induction system using saturated_induction with
  | idle system derives =>
    rw [derived_eq, if_pos derives, List.append_nil]
    exact Pass.allNew_derived additive system.known
  | productive system derives ih =>
    rw [derived_eq, if_neg derives]
    refine Bindings.allNew_append.mpr ⟨Pass.allNew_derived additive system.known, ?_⟩
    rw [← Pass.known_scan]
    exact ih ((settles_afterPass system).forall_mem_pending additive)

/-- What an addition to additive formulas derives changes none of the values known by then. -/
theorem keptIn_add (system : System K V)
    (additive : ∀ formula ∈ system.pending, formula.Additive) (supplied : List (K × V)) :
    (system.supply supplied).known.KeptIn (system.add supplied).known := by
  rw [add, known_saturated]
  exact (allNew_derived (system.supply supplied) additive).keptIn

/-- What is true of every pending formula stays true of every pending formula along a run. -/
theorem forall_mem_pending_run {motive : Formula K V → Prop} {system : System K V}
    (holds : ∀ formula ∈ system.pending, motive formula) (additions : List (List (K × V))) :
    ∀ formula ∈ (system.run additions).pending, motive formula := by
  -- Supplying bindings leaves the pending formulas alone, and a firing takes one of them out.
  refine run_preserves (motive := fun state => ∀ formula ∈ state.pending, motive formula)
    (fun _ _ _ still => still) (fun fires still formula member => ?_) holds
  exact still formula (fires.pending_sublist.subset member)

/-- An addition to additive formulas changes no value of a variable that it does not supply. -/
theorem getElem?_add_of_unnamed [LawfulEqOrd K] {system : System K V}
    (additive : ∀ formula ∈ system.pending, formula.Additive) {supplied : List (K × V)} {name : K}
    {value : V} (known : system.known[name]? = some value)
    (unnamed : ∀ binding ∈ supplied, binding.1 ≠ name) :
    (system.add supplied).known[name]? = some value := by
  have different : ∀ binding ∈ supplied, compare binding.1 name ≠ .eq :=
    fun binding member same => unnamed binding member (LawfulEqCmp.compare_eq_iff_eq.mp same)
  -- Neither the supplied bindings nor the derived ones touch this variable.
  have before : (system.supply supplied).known[name]? = some value :=
    (Bindings.getElem?_merge_of_unnamed different).trans known
  exact keptIn_add system additive supplied name value before

/-- A run of additive formulas changes no value of a variable that it does not supply. -/
theorem getElem?_run_of_not_supplied [LawfulEqOrd K] {system : System K V}
    (additive : ∀ formula ∈ system.pending, formula.Additive) {additions : List (List (K × V))}
    {name : K} {value : V} (known : system.known[name]? = some value)
    (unnamed : name ∉ Supplied additions) :
    (system.run additions).known[name]? = some value := by
  -- The induction is on the additions still to make.
  induction additions generalizing system with
  | nil => exact known
  | cons supplied rest ih =>
    have first : ∀ binding ∈ supplied, binding.1 ≠ name := by
      rintro binding member rfl
      exact unnamed ⟨supplied, List.mem_cons_self, binding.2, member⟩
    have others : name ∉ Supplied rest := by
      rintro ⟨later, member, given⟩
      exact unnamed ⟨later, List.mem_cons_of_mem _ member, given⟩
    exact ih ((settles_add system supplied).forall_mem_pending additive)
      (getElem?_add_of_unnamed additive known first) others

/-- After a run of additive formulas a supplied variable has the value of its last supply. -/
theorem getElem?_run_of_lastSupplied [LawfulEqOrd K] {system : System K V}
    (additive : ∀ formula ∈ system.pending, formula.Additive) {additions : List (List (K × V))}
    {name : K} {value : V} (last : LastSupplied additions name value) :
    (system.run additions).known[name]? = some value := by
  -- The induction is on the additions still to make.
  induction additions generalizing system with
  | nil =>
    obtain ⟨front, back, split, -⟩ := last
    simp at split
  | cons supplied rest ih =>
    have still := (settles_add system supplied).forall_mem_pending additive
    rcases last.of_cons with later | ⟨unnamed, front, back, rfl, none⟩
    · exact ih still later
    · -- The supplied value is known before the passes of the addition, which derive other ones.
      have given : (system.supply (front ++ (name, value) :: back)).known[name]? = some value :=
        Bindings.getElem?_merge_of_last none
      have kept := keptIn_add system additive _ name value given
      exact getElem?_run_of_not_supplied still kept unnamed

/-- Every variable that is known after a run was known before, was supplied or was derived. -/
theorem mem_known_run [LawfulEqOrd K] {system : System K V} {additions : List (List (K × V))}
    {name : K} (member : name ∈ (system.run additions).known) :
    name ∈ system.known ∨ name ∈ Supplied additions ∨
      ∃ before supplied after value, additions = before ++ supplied :: after ∧
        (name, value) ∈ ((system.run before).supply supplied).derived := by
  -- The induction is on the additions still to make.
  induction additions generalizing system with
  | nil => exact Or.inl member
  | cons supplied rest ih =>
    rcases ih member with known | ⟨later, listed, given⟩ | ⟨before, later, after, value, rfl, new⟩
    · rw [add, known_saturated, Bindings.mem_merge] at known
      rcases known with known | ⟨value, new⟩
      · rcases Bindings.mem_merge.mp known with known | given
        · exact Or.inl known
        · exact Or.inr (Or.inl ⟨supplied, List.mem_cons_self, given⟩)
      · exact Or.inr (Or.inr ⟨[], supplied, rest, value, rfl, new⟩)
    · exact Or.inr (Or.inl ⟨later, List.mem_cons_of_mem _ listed, given⟩)
    · exact Or.inr (Or.inr ⟨supplied :: before, later, after, value, rfl, new⟩)

/--
Deriving overwrites nothing, and nothing is forgotten.

A supplied variable has the value of its last supply, by the order of the additions and of the
bindings in each of them. Each derived binding is for a variable that has no value at that moment,
and its value stays until the variable is supplied. Every known variable is supplied or derived. The
solvers may answer anything, and formulas may repeat a variable.
-/
theorem known_run_retained [LawfulEqOrd K] (tables : List (Table K V)) :
    let start := ofFormulas (tables.map Table.toFormula)
    (∀ additions name value, LastSupplied additions name value →
      (start.run additions).known[name]? = some value) ∧
    (∀ before supplied,
      let live := (start.run before).supply supplied
      live.known.AllNew live.derived ∧
      (start.run (before ++ [supplied])).known = live.known.merge live.derived ∧
      ∀ name value, (name, value) ∈ live.derived → ∀ after, name ∉ Supplied after →
        (start.run (before ++ supplied :: after)).known[name]? = some value) ∧
    (∀ additions, ∀ name ∈ (start.run additions).known, name ∈ Supplied additions ∨
      ∃ before supplied after value, additions = before ++ supplied :: after ∧
        (name, value) ∈ ((start.run before).supply supplied).derived) ∧
    ∀ before after, (start.run before).known.Within (start.run (before ++ after)).known := by
  intro start
  have additive : ∀ formula ∈ start.pending, formula.Additive :=
    List.forall_mem_map.mpr fun table _ => table.additive
  have pending := forall_mem_pending_run additive
  refine ⟨fun additions name value => getElem?_run_of_lastSupplied additive, ?_, ?_, ?_⟩
  · intro before supplied live
    have new : live.known.AllNew live.derived := allNew_derived live (pending before)
    have added : (start.run (before ++ [supplied])).known = live.known.merge live.derived := by
      rw [run_append]
      exact known_saturated live
    refine ⟨new, added, fun name value member after unnamed => ?_⟩
    -- The value is there after the addition that derives it, and is not supplied after that.
    have first := new.getElem?_eq member
    rw [← added] at first
    rw [List.append_cons, run_append]
    exact getElem?_run_of_not_supplied (pending _) first unnamed
  · intro additions name member
    exact (mem_known_run member).resolve_left (by simp [start, ofFormulas])
  · intro before after
    rw [run_append]
    exact within_run (start.run before) after

open Orbit Orbit.Variable in
/-- A derived axis is overwritten, and the eccentricity that was derived from it stays. -/
theorem known_run_retained_overwritten :
    let tables : List (Table Variable Rat) := [apsisSum, periapsis, apsisRatio]
    let start := ofFormulas (tables.map Table.toFormula)
    let radii : List (Variable × Rat) := [(periRadius, 1), (periRadius, 2), (apoRadius, 6)]
    let axis : List (Variable × Rat) := [(semiMajorAxis, 5)]
    let live := (start.run []).supply radii
    LastSupplied [radii, axis] periRadius 2 ∧ LastSupplied [radii, axis] semiMajorAxis 5 ∧
    (start.run [radii, axis]).known[periRadius]? = some 2 ∧
    (start.run [radii, axis]).known[semiMajorAxis]? = some 5 ∧
    live.derived = [(semiMajorAxis, 4), (eccentricity, 1 / 2)] ∧ live.known.AllNew live.derived ∧
    eccentricity ∉ Supplied [axis] ∧
    (start.run [radii, axis]).known[eccentricity]? = some (1 / 2) := by
  intro tables start radii axis live
  obtain ⟨last, derives, -, -⟩ := known_run_retained tables
  obtain ⟨new, -, stays⟩ := derives [] radii
  have radius : LastSupplied [radii, axis] periRadius 2 :=
    ⟨[(periRadius, 1)], [(apoRadius, 6), (semiMajorAxis, 5)], rfl, by simp⟩
  have length : LastSupplied [radii, axis] semiMajorAxis 5 := ⟨radii, [], rfl, by simp⟩
  have derived : live.derived = [(semiMajorAxis, 4), (eccentricity, 1 / 2)] := by decide +kernel
  have unnamed : eccentricity ∉ Supplied [axis] := by simp [Supplied, axis]
  exact ⟨radius, length, last _ _ _ radius, last _ _ _ length, derived, new, unnamed,
    stays eccentricity (1 / 2) (by rw [derived]; simp) [axis] unnamed⟩

end System

end TwoBody
