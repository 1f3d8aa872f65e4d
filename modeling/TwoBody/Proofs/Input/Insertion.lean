import TwoBody.Input.Insertion
import TwoBody.Proofs.Input.Value
import TwoBody.Proofs.Ratio.Segments

/-!
Arguments of insertion orbits: how many there are, and what each of them is read as.

The three readers know different languages. A height may be named and so may a gravitational
parameter, but neither by a name of the other kind, and a portion is an expression without names.
-/

namespace TwoBody

open Orbit Ratio

/-- The arguments give a height, a portion and a gravitational parameter. -/
inductive Describes : List String → String → String → String → Prop where
  /-- Without a third argument the default parameter is taken. -/
  | two (height portion : String) : Describes [height, portion] height portion defaultGm
  /-- The third argument is the parameter. -/
  | three (height portion gm : String) : Describes [height, portion, gm] height portion gm

/-- Two or three arguments describe an orbit, and no other number of them does. -/
theorem exists_describes_iff {arguments : List String} :
    (∃ height portion gm, Describes arguments height portion gm) ↔
      arguments.length = 2 ∨ arguments.length = 3 := by
  constructor
  · intro described
    obtain ⟨height, portion, gm, describes⟩ := described
    cases describes with
    | two => exact Or.inl rfl
    | three => exact Or.inr rfl
  · intro counted
    match arguments, counted with
    | [height, portion], _ => exact ⟨height, portion, defaultGm, .two height portion⟩
    | [height, portion, gm], _ => exact ⟨height, portion, gm, .three height portion gm⟩

/-- The described height, portion and parameter are read one after the other. -/
theorem Describes.readInsertion_eq {arguments : List String} {height portion gm : String}
    (describes : Describes arguments height portion gm) :
    readInsertion arguments = readInsertion.readAll height portion gm := by
  cases describes <;> rfl

/-- Any other number of arguments is reported, whatever they are. -/
theorem readInsertion_of_length {arguments : List String} (two : arguments.length ≠ 2)
    (three : arguments.length ≠ 3) :
    readInsertion arguments = .error (.insertionArguments arguments.length) := by
  match arguments with
  | [] => rfl
  | [_] => rfl
  | [_, _] => exact absurd rfl two
  | [_, _, _] => exact absurd rfl three
  | _ :: _ :: _ :: _ :: _ => rfl

/-- The first of the three faults is the one that is reported. -/
theorem fault?_readAll (height portion gm : String) :
    fault? (readInsertion.readAll height portion gm) =
      [fault? (readHeight height), fault? (readRatio portion),
        fault? (readGm gm)].findSome? id := by
  unfold readInsertion.readAll
  -- A reading is only reached if those before it have succeeded.
  cases readHeight height with
  | error error => rfl
  | ok radius =>
    cases readRatio portion with
    | error error => rfl
    | ok share =>
      cases readGm gm with
      | error error => rfl
      | ok parameter => rfl

/-- An orbit is read exactly if all three of its arguments are. -/
theorem readAll_eq_ok_iff {height portion gm : String} {bindings : List (Variable × Float)} :
    readInsertion.readAll height portion gm = .ok bindings ↔
      ∃ radius share parameter, readHeight height = .ok radius ∧ readRatio portion = .ok share ∧
        readGm gm = .ok parameter ∧ bindings = insertion radius share parameter := by
  constructor
  · intro read
    have faultless : fault? (readInsertion.readAll height portion gm) = none :=
      fault?_eq_none_iff.mpr ⟨bindings, read⟩
    rw [fault?_readAll, List.findSome?_eq_none_iff] at faultless
    -- Without any fault each of the three has a value.
    simp only [List.forall_mem_cons, id_eq, fault?_eq_none_iff] at faultless
    obtain ⟨⟨radius, first⟩, ⟨share, second⟩, ⟨parameter, third⟩, -⟩ := faultless
    refine ⟨radius, share, parameter, first, second, third, ?_⟩
    rw [readInsertion.readAll, first, second, third] at read
    exact (Except.ok.inj read).symm
  · intro readings
    obtain ⟨radius, share, parameter, first, second, third, rfl⟩ := readings
    rw [readInsertion.readAll, first, second, third]
    rfl

/-- A text that is no constant and no number is reported as it stands. -/
theorem eq_invalidNumber_of_readConstantOr {constants : Constants} {text : String}
    {error : InputError} (fails : readConstantOr constants text = .error error) :
    error = .invalidNumber text := by
  unfold readConstantOr readNumber at fails
  -- Only the reading of a number can fail, and it has one way to do so.
  split at fails
  · cases fails
  · split at fails
    · cases fails
    · exact (Except.error.inj fails).symm

/-- An expression that is not read lacks an operand, or has one that is no number. -/
theorem operand_of_readRatio {text : String} {error : InputError}
    (fails : readRatio text = .error error) :
    ∃ segment, error = .emptyOperand segment ∨ error = .invalidNumber segment := by
  have fault : fault? (readRatio text) = some error := fault?_eq_some_iff.mpr fails
  rw [readRatio, fault?_value] at fault
  -- The fault is that of one of the segments.
  obtain ⟨segment, -, blamed⟩ := List.exists_of_findSome?_eq_some fault
  have blamed : operand segment = .error error := fault?_eq_some_iff.mp blamed
  refine ⟨String.ofList segment, ?_⟩
  cases read : readFloat? (trim segment) with
  | none =>
    rw [operand_of_unread read] at blamed
    rw [← Except.error.inj blamed]
    split
    · exact Or.inl rfl
    · exact Or.inr rfl
  | some number =>
    rw [operand_of_number read] at blamed
    cases blamed

/-- No reader of a single argument complains about how many arguments there are. -/
theorem fault?_readAll_ne (height portion gm : String) (count : Nat) :
    fault? (readInsertion.readAll height portion gm) ≠ some (.insertionArguments count) := by
  rw [fault?_readAll]
  intro counted
  obtain ⟨reading, member, same⟩ := List.exists_of_findSome?_eq_some counted
  -- The fault would be that of one of the three readings.
  simp only [List.mem_cons, List.not_mem_nil, or_false] at member
  rcases member with rfl | rfl | rfl
  · cases eq_invalidNumber_of_readConstantOr (fault?_eq_some_iff.mp same)
  · obtain ⟨segment, missing | invalid⟩ := operand_of_readRatio (fault?_eq_some_iff.mp same)
    · cases missing
    · cases invalid
  · cases eq_invalidNumber_of_readConstantOr (fault?_eq_some_iff.mp same)

/-- The number of the arguments is reported exactly if it is neither two nor three. -/
theorem readInsertion_eq_miscounted_iff {arguments : List String} (count : Nat) :
    readInsertion arguments = .error (.insertionArguments count) ↔
      arguments.length ≠ 2 ∧ arguments.length ≠ 3 ∧ count = arguments.length := by
  by_cases counted : arguments.length = 2 ∨ arguments.length = 3
  · -- What is wrong with arguments that describe an orbit is never their number.
    obtain ⟨height, portion, gm, describes⟩ := exists_describes_iff.mpr counted
    rw [describes.readInsertion_eq, ← fault?_eq_some_iff]
    constructor
    · intro complaint
      exact absurd complaint (fault?_readAll_ne height portion gm count)
    · intro miscounted
      omega
  · have miscounted := not_or.mp counted
    rw [readInsertion_of_length miscounted.1 miscounted.2, Except.error.injEq,
      InputError.insertionArguments.injEq]
    constructor
    · intro same
      exact ⟨miscounted.1, miscounted.2, same.symm⟩
    · intro conditions
      exact conditions.2.2.symm

/-- The name of a constant is malformed where only constants of another kind are allowed. -/
theorem readConstantOr_of_foreign {constants : Constants} {name : String}
    (listed : name ∈ (namedGms ++ namedHeights).map Prod.fst)
    (foreign : ∀ entry ∈ constants, entry.1 ≠ name) :
    readConstantOr constants name = .error (.invalidNumber name) := by
  obtain ⟨entry, member, rfl⟩ := List.mem_map.mp listed
  rw [readConstantOr_of_unlisted foreign, readNumber, readFloat?_of_mem_constants entry member]

/-- The name of a gravitational parameter is no height. -/
theorem readHeight_of_namedGm {name : String} (listed : name ∈ namedGms.map Prod.fst) :
    readHeight name = .error (.invalidNumber name) := by
  have apart : ∀ gm ∈ namedGms.map Prod.fst, ∀ entry ∈ namedHeights, entry.1 ≠ gm := by decide
  apply readConstantOr_of_foreign _ (apart name listed)
  rw [List.map_append]
  exact List.mem_append_left _ listed

/-- The name of a height is no gravitational parameter. -/
theorem readGm_of_namedHeight {name : String} (listed : name ∈ namedHeights.map Prod.fst) :
    readGm name = .error (.invalidNumber name) := by
  have apart : ∀ height ∈ namedHeights.map Prod.fst, ∀ entry ∈ namedGms, entry.1 ≠ height := by
    decide
  apply readConstantOr_of_foreign _ (apart name listed)
  rw [List.map_append]
  exact List.mem_append_right _ listed

/-- The name of a constant is no portion: what stands before its first hyphen is no number. -/
theorem readRatio_of_named {name : String}
    (listed : name ∈ (namedGms ++ namedHeights).map Prod.fst) :
    readRatio name =
      .error (.invalidNumber (String.ofList (name.toList.takeWhile (· ≠ '-')))) := by
  apply fault?_eq_some_iff.mp
  rw [readRatio, fault?_value]
  -- There are five names to divide into segments.
  have checked : ∀ name ∈ (namedGms ++ namedHeights).map Prod.fst,
      (cut isOperator name.toList).findSome? (fun segment => fault? (operand segment)) =
        some (.invalidNumber (String.ofList (name.toList.takeWhile (· ≠ '-')))) := by
    decide +kernel
  exact checked name listed

/--
Insertion orbits are described by two or three arguments, of which the first faulty one is blamed.

Another number of arguments is the only cause of a complaint about it, whatever the arguments are.
Otherwise the height, the portion and the parameter are read in this order, each in a language of
its own, in which the names of the others mean nothing. Left out, the parameter is that of Kerbin.
-/
theorem readInsertion_arguments (arguments : List String) :
    (∀ count, readInsertion arguments = .error (.insertionArguments count) ↔
      arguments.length ≠ 2 ∧ arguments.length ≠ 3 ∧ count = arguments.length) ∧
    (∀ height portion, arguments = [height, portion] →
      readInsertion arguments = readInsertion [height, portion, "GM-kerbin"]) ∧
    ((∃ height portion gm, Describes arguments height portion gm) ↔
      arguments.length = 2 ∨ arguments.length = 3) ∧
    ∀ height portion gm, Describes arguments height portion gm →
      fault? (readInsertion arguments) =
        [fault? (readHeight height), fault? (readRatio portion), fault? (readGm gm)].findSome? id ∧
      (∀ bindings, readInsertion arguments = .ok bindings ↔
        ∃ radius share parameter, readHeight height = .ok radius ∧
          readRatio portion = .ok share ∧ readGm gm = .ok parameter ∧
          bindings = [(.periRadius, radius), (.gm, parameter),
            (.period, (4 * pi * pi * (radius * radius * radius) / parameter).sqrt * share)]) ∧
      (height ∈ namedGms.map Prod.fst →
        readInsertion arguments = .error (.invalidNumber height)) ∧
      (gm ∈ namedHeights.map Prod.fst → fault? (readHeight height) = none →
        fault? (readRatio portion) = none →
          readInsertion arguments = .error (.invalidNumber gm)) ∧
      (portion ∈ (namedGms ++ namedHeights).map Prod.fst → fault? (readHeight height) = none →
        readInsertion arguments =
          .error (.invalidNumber (String.ofList (portion.toList.takeWhile (· ≠ '-'))))) ∧
      (portion ∈ (namedGms ++ namedHeights).map Prod.fst →
        ∀ bindings, readInsertion arguments ≠ .ok bindings) := by
  refine ⟨readInsertion_eq_miscounted_iff, ?_, exists_describes_iff, ?_⟩
  · intro height portion two
    rw [two]
    rfl
  · intro height portion gm describes
    rw [describes.readInsertion_eq]
    have first := fault?_readAll height portion gm
    refine ⟨first, ?_, ?_, ?_, ?_, ?_⟩
    · intro bindings
      exact readAll_eq_ok_iff
    · intro listed
      apply fault?_eq_some_iff.mp
      rw [first, readHeight_of_namedGm listed]
      rfl
    · intro listed radius share
      apply fault?_eq_some_iff.mp
      rw [first, radius, share, readGm_of_namedHeight listed]
      rfl
    · intro listed radius
      apply fault?_eq_some_iff.mp
      rw [first, radius, readRatio_of_named listed]
      rfl
    · intro listed bindings read
      obtain ⟨radius, share, parameter, -, portionRead, -⟩ := readAll_eq_ok_iff.mp read
      rw [readRatio_of_named listed] at portionRead
      cases portionRead

/--
The fault of an earlier argument hides those of the later ones.

The name of a height is no portion, and the part of a name in front of its hyphen is blamed. With
the height and half a circular period alone, the orbit is one around Kerbin.
-/
theorem readInsertion_arguments_named :
    Describes ["GM-Mun", "1/", "geostationary"] "GM-Mun" "1/" "geostationary" ∧
    readInsertion ["GM-Mun", "1/", "geostationary"] = .error (.invalidNumber "GM-Mun") ∧
    readInsertion ["6e5", "geosync-kerbin", "geostationary"] = .error (.invalidNumber "geosync") ∧
    readInsertion ["6e5", "1/2", "geostationary"] = .error (.invalidNumber "geostationary") ∧
    readInsertion ["6e5", "1/2"] = readInsertion ["6e5", "1/2", "GM-kerbin"] ∧
    (∃ radius share parameter, readInsertion ["6e5", "1/2"] =
      .ok [(.periRadius, radius), (.gm, parameter),
        (.period, (4 * pi * pi * (radius * radius * radius) / parameter).sqrt * share)]) ∧
    readInsertion ["6e5"] = .error (.insertionArguments 1) := by
  have height : fault? (readHeight "6e5") = none := by decide +kernel
  have half : fault? (readRatio "1/2") = none := by decide +kernel
  obtain ⟨-, -, -, orbit⟩ := readInsertion_arguments ["GM-Mun", "1/", "geostationary"]
  obtain ⟨-, -, foreign, -⟩ := orbit _ _ _ (.three ..)
  obtain ⟨-, -, -, orbit⟩ := readInsertion_arguments ["6e5", "geosync-kerbin", "geostationary"]
  obtain ⟨-, -, -, -, portion, -⟩ := orbit _ _ _ (.three ..)
  obtain ⟨-, -, -, orbit⟩ := readInsertion_arguments ["6e5", "1/2", "geostationary"]
  obtain ⟨-, -, -, body, -, -⟩ := orbit _ _ _ (.three ..)
  obtain ⟨-, default, -, orbit⟩ := readInsertion_arguments ["6e5", "1/2"]
  obtain ⟨-, reads, -, -, -, -⟩ := orbit _ _ _ (.two ..)
  obtain ⟨radius, first⟩ := fault?_eq_none_iff.mp height
  obtain ⟨share, second⟩ := fault?_eq_none_iff.mp half
  have third : readGm defaultGm = .ok gmKerbin :=
    readConstantOr_of_mem (by decide) List.mem_cons_self
  refine ⟨.three .., foreign (by decide), portion (by decide) height, body (by decide) height half,
    default _ _ rfl, ⟨radius, share, gmKerbin, ?_⟩, ?_⟩
  · exact (reads _).mpr ⟨radius, share, gmKerbin, first, second, third, rfl⟩
  · exact ((readInsertion_arguments ["6e5"]).1 1).mpr ⟨by simp, by simp, rfl⟩

end TwoBody
