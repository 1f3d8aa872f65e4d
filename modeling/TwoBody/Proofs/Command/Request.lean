import TwoBody.Command.Request

/-!
Requests: what a command line asks for that has bindings or one insertion orbit, with the option for
JSON or without.
-/

namespace TwoBody

/-- The option for JSON, if it is wanted. -/
def jsonFlag (json : Bool) : List String :=
  if json then ["--json"] else []

namespace Request

/-- A word that does not begin with a dash is no option. -/
theorem isOption_of_head {word : String} (head : word.toList.head? ≠ some '-') :
    isOption word = false := by
  unfold isOption
  split
  · rename_i split
    exact absurd (by rw [split]; rfl) head
  · rfl

/-- Once all words are read, consistent options ask for an orbit. -/
theorem read_nil {options : Options} (consistent : options.consistent) {taken : Taken}
    (complete : taken.complete) : read options taken [] = some (.solve options) := by
  rw [read, if_pos complete, settle, if_pos consistent]

/-- Words that are no options are bindings, and reading goes on behind them. -/
theorem read_plain_append {words : List String} (plain : ∀ word ∈ words, isOption word = false)
    (options : Options) (rest : List String) :
    read options none (words ++ rest) =
      read { options with bindings := options.bindings ++ words } none rest := by
  -- The induction is on the words still to read.
  induction words generalizing options with
  | nil => simp
  | cons word others ih =>
    obtain ⟨first, later⟩ := List.forall_mem_cons.mp plain
    have goes : read options none (word :: (others ++ rest)) =
        read (options.withBinding word) none (others ++ rest) := by
      rw [read, if_neg (by simp [first])]
    rw [List.cons_append, goes, ih later, Options.withBinding]
    simp

/-- Behind the option for an insertion orbit, words that are no options are its arguments. -/
theorem read_insertion_append {words : List String} (plain : ∀ word ∈ words, isOption word = false)
    (options : Options) (given rest : List String) {count : Nat}
    (fits : count + words.length ≤ mostArguments) :
    read (options.withInsertion given) (some count) (words ++ rest) =
      read (options.withInsertion (given ++ words)) (some (count + words.length)) rest := by
  -- The induction is on the words still to read.
  induction words generalizing given count with
  | nil => simp
  | cons word others ih =>
    obtain ⟨first, later⟩ := List.forall_mem_cons.mp plain
    rw [List.length_cons] at fits
    -- The word is one more argument, and there is still room for the others.
    have extended : (options.withInsertion given).withInsertion [word] =
        options.withInsertion (given ++ [word]) := by
      simp [Options.withInsertion]
    have goes : read (options.withInsertion given) (some count) (word :: (others ++ rest)) =
        read (options.withInsertion (given ++ [word])) (some (count + 1)) (others ++ rest) := by
      rw [read, if_neg (by simp [first]), ← extended]
      exact if_pos (by omega)
    have counted : count + 1 + others.length = count + (others.length + 1) := by omega
    rw [List.cons_append, goes, ih later _ (by omega), counted, List.length_cons,
      List.append_assoc, List.singleton_append]

/-- The option for JSON may stand where no other option lacks arguments. -/
theorem read_jsonFlag_append {options : Options} (unset : options.json = false) {taken : Taken}
    (complete : taken.complete) (rest : List String) :
    read options taken (jsonFlag true ++ rest) = read { options with json := true } none rest := by
  have option : isOption "--json" := by decide
  rw [jsonFlag, if_pos rfl, List.singleton_append, read.eq_def]
  simp [option, complete, unset]

/-- Words that are no options are bindings, on either side of the option for JSON. -/
theorem ofWords?_of_bindings {front back : List String}
    (plain : ∀ word ∈ front ++ back, isOption word = false) (json : Bool) :
    ofWords? (front ++ jsonFlag json ++ back) = some (.solve ⟨front ++ back, none, json⟩) := by
  -- Read from left to right, the words change one part of the options after the other.
  obtain ⟨before, behind⟩ := List.forall_mem_append.mp plain
  have flagged : read ⟨front, none, false⟩ none (jsonFlag json ++ (back ++ [])) =
      read ⟨front, none, json⟩ none (back ++ []) := by
    cases json with
    | false => rfl
    | true => exact read_jsonFlag_append rfl rfl _
  calc
    ofWords? (front ++ jsonFlag json ++ back)
    _ = read ⟨[], none, false⟩ none (front ++ (jsonFlag json ++ (back ++ []))) := by
      rw [List.append_nil, ← List.append_assoc]
      rfl
    _ = read ⟨front, none, false⟩ none (jsonFlag json ++ (back ++ [])) :=
      read_plain_append before _ _
    _ = read ⟨front, none, json⟩ none (back ++ []) := flagged
    _ = read ⟨front ++ back, none, json⟩ none [] := read_plain_append behind _ _
    _ = some (.solve ⟨front ++ back, none, json⟩) :=
      read_nil (by simp [Options.consistent]) rfl

/-- A command line with no words but the option for JSON asks for an orbit without bindings. -/
theorem ofWords?_of_jsonFlag (json : Bool) :
    ofWords? (jsonFlag json) = some (.solve ⟨[], none, json⟩) := by
  cases json <;> decide

/-- A command line without options asks for an orbit with these bindings. -/
theorem ofWords?_of_plain {words : List String} (plain : ∀ word ∈ words, isOption word = false) :
    ofWords? words = some (.solve ⟨words, none, false⟩) := by
  simpa [jsonFlag] using ofWords?_of_bindings (by simpa using plain : ∀ word ∈ words ++ [], _) false

/-- Two or three words behind the option for an insertion orbit are its arguments. -/
theorem read_insertion {words : List String}
    (counted : leastArguments ≤ words.length ∧ words.length ≤ mostArguments)
    (plain : ∀ word ∈ words, isOption word = false) (json : Bool) (rest : List String) :
    ∃ taken : Taken, taken.complete ∧
      read ⟨[], none, json⟩ none ("-d" :: (words ++ rest)) =
        read ⟨[], some words, json⟩ taken rest := by
  refine ⟨some words.length, by simpa [Taken.complete] using counted.1, ?_⟩
  -- The option itself has taken no words yet.
  have begun : read ⟨[], none, json⟩ none ("-d" :: (words ++ rest)) =
      read (Options.withInsertion ⟨[], none, json⟩ []) (some 0) (words ++ rest) := by
    rw [read, if_pos (by decide), if_neg (by decide), if_neg (by decide), if_neg (by decide),
      if_pos (by decide)]
  have fits : 0 + words.length ≤ mostArguments := by omega
  rw [begun, read_insertion_append plain _ _ _ fits, Nat.zero_add]
  rfl

/-- The words behind the option for an insertion orbit are its arguments, wherever JSON is asked. -/
theorem ofWords?_of_insertion {before words after : List String} {json : Bool}
    (flag : before ++ after = jsonFlag json)
    (counted : leastArguments ≤ words.length ∧ words.length ≤ mostArguments)
    (plain : ∀ word ∈ words, isOption word = false) :
    ofWords? (before ++ "-d" :: words ++ after) = some (.solve ⟨[], some words, json⟩) := by
  -- The option for JSON is in front of the other option, behind its arguments, or not there.
  rw [ofWords?, List.append_assoc, List.cons_append]
  cases json with
  | false =>
    obtain ⟨rfl, rfl⟩ := List.append_eq_nil_iff.mp flag
    obtain ⟨taken, complete, taking⟩ := read_insertion counted plain false []
    exact taking.trans (read_nil rfl complete)
  | true =>
    rcases List.append_eq_singleton_iff.mp flag with ⟨rfl, rfl⟩ | ⟨rfl, rfl⟩
    · -- Behind the words, the option for JSON needs the other one to be complete.
      obtain ⟨taken, complete, taking⟩ := read_insertion counted plain false (jsonFlag true)
      exact taking.trans ((read_jsonFlag_append rfl complete []).trans (read_nil rfl rfl))
    · obtain ⟨taken, complete, taking⟩ := read_insertion counted plain true []
      exact (read_jsonFlag_append rfl rfl _).trans (taking.trans (read_nil rfl complete))

end Request

end TwoBody
