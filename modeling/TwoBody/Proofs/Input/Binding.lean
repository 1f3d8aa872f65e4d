import TwoBody.Input.Binding
import TwoBody.Proofs.Text.Trim

/-!
Bindings: a text with a separator is read in two parts, and white space around each is left out.
-/

namespace TwoBody

open Orbit

/-- The text has a separator between a name and a value. -/
def Separated (text : List Char) : Prop :=
  -- The first separator is the one that counts.
  ∃ separator ∈ text, isSeparator separator

/-- A text with a separator is divided at the first one. -/
theorem Separated.split {text : List Char} (separated : Separated text) :
    ∃ name separator value, text = name ++ separator :: value ∧
      (∀ character ∈ name, isSeparator character = false) ∧ isSeparator separator := by
  -- The search for a separator finds the first one, with the text on both sides of it.
  obtain ⟨separator, found⟩ := Option.isSome_iff_exists.mp (List.find?_isSome.mpr separated)
  obtain ⟨separates, name, value, split, plain⟩ := List.find?_eq_some_iff_append.mp found
  exact ⟨name, separator, value, split, by simpa using plain, separates⟩

/-- Without a separator, the whole text is at fault. -/
theorem readBinding_of_not_separated {text : String} (whole : ¬ Separated text.toList) :
    readBinding text = .error (.missingSeparator text) := by
  -- Nothing is left behind the name to be the value.
  have solid : text.toList.dropWhile (fun character => !isSeparator character) = [] :=
    List.dropWhile_eq_nil_iff.mpr (by simpa [Separated] using whole)
  rw [readBinding, solid]

/-- A separator is not white space. -/
theorem isBlank_of_isSeparator {character : Char} (separates : isSeparator character) :
    isBlank character = false := by
  -- There are two of them.
  simp only [isSeparator, Bool.or_eq_true, beq_iff_eq] at separates
  rcases separates with rfl | rfl <;> decide

/-- A binding is read in two parts, before and behind its first separator. -/
theorem readBinding_of_split {text : String} {name value : List Char} {separator : Char}
    (split : text.toList = name ++ separator :: value)
    (plain : ∀ character ∈ name, isSeparator character = false)
    (separates : isSeparator separator) :
    readBinding text = (do
      let symbol ← readVariable (String.ofList (trim name))
      let number ← readValue (String.ofList (trim value))
      return (symbol, number)) := by
  have inside : ∀ character ∈ name, (!isSeparator character) = true :=
    fun character member => by rw [plain character member]; rfl
  have before : (text.toList.takeWhile fun character => !isSeparator character) = name := by
    rw [split, List.takeWhile_append_of_pos inside]
    simp [separates]
  have behind : (text.toList.dropWhile fun character => !isSeparator character) =
      separator :: value := by
    rw [split, List.dropWhile_append_of_pos inside]
    simp [separates]
  rw [readBinding, before, behind]

/-- Only the name of a variable is read as one. -/
theorem eq_name_of_readVariable {text : String} {symbol : Variable}
    (read : readVariable text = .ok symbol) : text = symbol.name := by
  unfold readVariable Variable.ofName? at read
  split at read
  · rename_i found
    obtain rfl := Except.ok.inj read
    have same := List.find?_some found
    exact (of_decide_eq_true same).symm
  · nomatch read

/-- White space around a binding does not matter. -/
theorem readBinding_trim {text : String} (separated : Separated text.toList) :
    readBinding (String.ofList (trim text.toList)) = readBinding text := by
  -- Only the outer ends of the name and of the value lose something, and both are trimmed anyway.
  obtain ⟨name, separator, value, split, plain, separates⟩ := separated.split
  have trimmed : (String.ofList (trim text.toList)).toList =
      name.dropWhile isBlank ++ separator :: (value.reverse.dropWhile isBlank).reverse := by
    rw [String.toList_ofList, split, trim_append_cons (isBlank_of_isSeparator separates)]
  have inside : ∀ character ∈ name.dropWhile isBlank, isSeparator character = false :=
    fun character member => plain character ((List.dropWhile_sublist isBlank).subset member)
  rw [readBinding_of_split trimmed inside separates, readBinding_of_split split plain separates,
    trim_dropWhile, trim_reverse_dropWhile]

/-- A separator is still there once white space is left out. -/
theorem Separated.trim {text : List Char} (separated : Separated text) :
    Separated (TwoBody.trim text) := by
  obtain ⟨separator, member, separates⟩ := separated
  exact ⟨separator, mem_trim_of_mem (isBlank_of_isSeparator separates) member, separates⟩

/-- The text is well-formed as a binding. -/
def Accepted (text : String) : Prop :=
  -- What is bound to what does not matter here.
  ∃ binding, readBinding text = .ok binding

instance (text : String) : Decidable (Accepted text) :=
  match read : readBinding text with
  | .ok binding => isTrue ⟨binding, read⟩
  | .error _ => isFalse fun accepted => by simp [Accepted, read] at accepted

/-- A well-formed binding has a separator. -/
theorem Accepted.separated {text : String} (accepted : Accepted text) :
    Separated text.toList := by
  obtain ⟨binding, read⟩ := accepted
  by_contra whole
  rw [readBinding_of_not_separated whole] at read
  nomatch read

/-- White space around a well-formed binding is left out. -/
theorem Accepted.readBinding_trim {text : String} (accepted : Accepted text) :
    readBinding (String.ofList (trim text.toList)) = readBinding text :=
  TwoBody.readBinding_trim accepted.separated

/-- A well-formed binding does not begin with a dash, which is in no name of a variable. -/
theorem Accepted.head?_ne {text : String} (accepted : Accepted text) :
    text.toList.head? ≠ some '-' := by
  obtain ⟨name, separator, value, split, plain, separates⟩ := accepted.separated.split
  obtain ⟨binding, read⟩ := accepted
  rw [readBinding_of_split split plain separates] at read
  cases named : readVariable (String.ofList (trim name)) with
  | error error =>
    rw [named] at read
    nomatch read
  | ok symbol =>
    -- The dash would be part of the name, and would still be there once that is trimmed.
    have whole : trim name = symbol.name.toList := by
      rw [← eq_name_of_readVariable named, String.toList_ofList]
    intro head
    have first : '-' ∈ name := by
      cases name with
      | nil =>
        -- The text would begin with its separator.
        rw [split, List.nil_append, List.head?_cons, Option.some.injEq] at head
        exact absurd (head ▸ separates) (by decide)
      | cons character rest =>
        rw [split, List.cons_append, List.head?_cons, Option.some.injEq] at head
        exact head ▸ List.mem_cons_self
    have kept : '-' ∈ symbol.name.toList := whole ▸ mem_trim_of_mem (by decide) first
    revert kept
    cases symbol <;> decide

end TwoBody
