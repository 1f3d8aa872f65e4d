import Mathlib.Data.List.Forall2
import TwoBody.Text.Line

/-!
Lines of text: the bytes of a text whose lines are divided by line feeds are read as these lines.

A carriage return at the end of a line is lost where a line feed follows, and kept where none does.
-/

namespace TwoBody

/-- The bytes of a text. -/
def utf8 (text : String) : List UInt8 :=
  text.toUTF8.data.toList

/-- The bytes of a text are those of its characters. -/
theorem utf8_eq_flatMap (text : String) :
    utf8 text = text.toList.flatMap String.utf8EncodeChar := by
  rw [utf8, String.toUTF8_eq_toByteArray, ← String.utf8Encode_toList, List.utf8Encode,
    List.data_toByteArray]

/-- The bytes of two texts make up those of both together. -/
theorem utf8_append (front back : String) : utf8 (front ++ back) = utf8 front ++ utf8 back := by
  simp only [utf8, String.toUTF8_eq_toByteArray, String.toByteArray_append,
    ByteArray.toList_data_append]

/-- The bytes of a text are read as this text. -/
theorem fromUTF8?_utf8 (text : String) : String.fromUTF8? ⟨(utf8 text).toArray⟩ = some text := by
  -- Every text carries a proof that its bytes are valid, so the reader takes the branch for these.
  have bytes : (⟨(utf8 text).toArray⟩ : ByteArray) = text.toByteArray := rfl
  rw [bytes, String.fromUTF8?, dif_pos text.isValidUTF8]
  rfl

/-- There are bytes in a text that is not empty. -/
theorem utf8_ne_nil {text : String} (nonempty : text ≠ "") : utf8 text ≠ [] := by
  -- Without bytes it would be read as the empty text as well.
  intro none
  have read := fromUTF8?_utf8 text
  rw [none] at read
  exact nonempty (Option.some.inj (read.symm.trans (fromUTF8?_utf8 "")))

/-- A byte below 128 stands for the character with this number, and for no other. -/
theorem toNat_of_mem_utf8EncodeChar {character : Char} {byte : UInt8}
    (member : byte ∈ String.utf8EncodeChar character) (small : byte.toNat < 128) :
    character.toNat = byte.toNat := by
  simp only [String.utf8EncodeChar, ← Char.toNat_val] at member ⊢
  -- All bytes of a character that has two or more of them are at least 128.
  split at member
  · obtain rfl := List.mem_singleton.mp member
    rw [UInt8.toNat_ofNat']
    omega
  · have large : 128 ≤ byte.toNat := by
      split at member
      · simp only [List.mem_cons, List.not_mem_nil, or_false] at member
        rcases member with rfl | rfl <;> rw [UInt8.toNat_ofNat'] <;> omega
      · split at member
        · simp only [List.mem_cons, List.not_mem_nil, or_false] at member
          rcases member with rfl | rfl | rfl <;> rw [UInt8.toNat_ofNat'] <;> omega
        · simp only [List.mem_cons, List.not_mem_nil, or_false] at member
          rcases member with rfl | rfl | rfl | rfl <;> rw [UInt8.toNat_ofNat'] <;> omega
    omega

/-- Only a line feed has the byte that ends a line. -/
theorem eq_newline_of_mem {character : Char}
    (member : lineFeed ∈ String.utf8EncodeChar character) : character = '\n' :=
  Char.toNat_inj.mp (toNat_of_mem_utf8EncodeChar member (by decide))

/-- Only a carriage return has the byte that may stand before the end of a line. -/
theorem eq_return_of_mem {character : Char}
    (member : carriageReturn ∈ String.utf8EncodeChar character) : character = '\r' :=
  Char.toNat_inj.mp (toNat_of_mem_utf8EncodeChar member (by decide))

/-- The bytes of a text without line feeds end no line. -/
theorem lineFeed_not_mem_utf8 {text : String} (single : '\n' ∉ text.toList) :
    lineFeed ∉ utf8 text := by
  -- The byte would stem from a character of the text, and that could only be a line feed.
  rw [utf8_eq_flatMap, List.mem_flatMap]
  rintro ⟨character, member, ended⟩
  exact single (eq_newline_of_mem ended ▸ member)

/-- The bytes of a text do not end in a carriage return if the text does not. -/
theorem getLast?_utf8_ne {text : String} (other : text.toList.getLast? ≠ some '\r') :
    (utf8 text).getLast? ≠ some carriageReturn := by
  intro last
  rw [utf8_eq_flatMap] at last
  rcases List.eq_nil_or_concat text.toList with none | ⟨front, character, split⟩
  · simp [none] at last
  · -- The last byte of the text is the last byte of its last character.
    have encoded : String.utf8EncodeChar character ≠ [] := by simp [String.utf8EncodeChar_ne_nil]
    rw [split, List.concat_eq_append, List.flatMap_append, List.flatMap_singleton,
      List.getLast?_append_of_ne_nil _ encoded] at last
    refine other ?_
    rw [split, List.concat_eq_append, List.getLast?_concat,
      eq_return_of_mem (List.mem_of_getLast? last)]

/-- Without a line feed, nothing ends a line. -/
theorem unterminated_of_not_mem {line : List UInt8} (absent : lineFeed ∉ line) :
    unterminated line = line := by
  unfold unterminated
  split
  · rename_i last before reversed
    -- The last byte is looked at, but it is one of the line.
    have member : last ∈ line := List.mem_reverse.mp (by simp [reversed])
    have unlike : last ≠ lineFeed := ne_of_mem_of_not_mem member absent
    rw [if_neg unlike]
  · rename_i reversed
    exact (List.reverse_eq_nil_iff.mp reversed).symm

/-- A line feed ends a line, and is taken away. -/
theorem unterminated_append_lineFeed {line : List UInt8}
    (other : line.getLast? ≠ some carriageReturn) : unterminated (line ++ [lineFeed]) = line := by
  rw [unterminated, List.reverse_append, List.reverse_singleton, List.singleton_append]
  simp only [if_true]
  split
  · rename_i previous earlier reversed
    have last : line.getLast? = some previous := by
      rw [← List.head?_reverse, reversed, List.head?_cons]
    rw [last] at other
    rw [if_neg fun same => other (congrArg some same), List.reverse_reverse]
  · rename_i reversed
    exact (List.reverse_eq_nil_iff.mp reversed).symm

/-- A carriage return before the line feed is taken away as well. -/
theorem unterminated_append_return (line : List UInt8) :
    unterminated (line ++ [carriageReturn, lineFeed]) = line := by
  simp [unterminated]

/--
The line has this text.

It is read as the text, or as the text less a carriage return at its end.
-/
def HasText (line : List UInt8) (text : String) : Prop :=
  ∃ read, lineText? line = some read ∧ (text = read ∨ text = read ++ "\r")

/-- The bytes of a text are a line with this text, as long as they hold no line feed. -/
theorem hasText_utf8 {text : String} (single : '\n' ∉ text.toList) : HasText (utf8 text) text := by
  refine ⟨text, ?_, Or.inl rfl⟩
  rw [lineText?, unterminated_of_not_mem (lineFeed_not_mem_utf8 single), fromUTF8?_utf8]

/-- The bytes of a text with a line feed behind them are a line with this text. -/
theorem hasText_append_lineFeed (text : String) : HasText (utf8 text ++ [lineFeed]) text := by
  by_cases last : text.toList.getLast? = some '\r'
  · -- The carriage return belongs to the end of the line.
    obtain ⟨front, split⟩ := List.getLast?_eq_some_iff.mp last
    have parts : text = String.ofList front ++ "\r" := by
      rw [← String.toList_inj, split]
      simp
    refine ⟨String.ofList front, ?_, Or.inr parts⟩
    have bytes : utf8 text ++ [lineFeed] =
        utf8 (String.ofList front) ++ [carriageReturn, lineFeed] := by
      rw [parts, utf8_append, List.append_assoc]
      rfl
    rw [bytes, lineText?, unterminated_append_return, fromUTF8?_utf8]
  · refine ⟨text, ?_, Or.inl rfl⟩
    rw [lineText?, unterminated_append_lineFeed (getLast?_utf8_ne last), fromUTF8?_utf8]

/-- The first line feed ends the first line. -/
theorem lines_append_cons {line : List UInt8} (absent : lineFeed ∉ line) (rest : List UInt8) :
    lines (line ++ lineFeed :: rest) = (line ++ [lineFeed]) :: lines rest := by
  -- Each byte before it goes to the front of the line that it ends.
  induction line with
  | nil => simp [lines]
  | cons byte behind ih =>
    have other : byte ≠ lineFeed := (List.ne_of_not_mem_cons absent).symm
    rw [List.cons_append, lines, if_neg other, ih (List.not_mem_of_not_mem_cons absent)]
    rfl

/-- Bytes without a line feed are a line that nothing ends. -/
theorem lines_of_not_mem {line : List UInt8} (given : line ≠ []) (absent : lineFeed ∉ line) :
    lines line = [line] := by
  -- The last byte makes up the line, and those before it go to its front.
  induction line with
  | nil => exact absurd rfl given
  | cons byte behind ih =>
    have other : byte ≠ lineFeed := (List.ne_of_not_mem_cons absent).symm
    rw [lines, if_neg other]
    cases behind with
    | nil => rfl
    | cons next others =>
      rw [ih (List.cons_ne_nil next others) (List.not_mem_of_not_mem_cons absent)]

/-- There is a line where there is a byte. -/
theorem lines_ne_nil {stream : List UInt8} (given : stream ≠ []) : lines stream ≠ [] := by
  intro none
  have whole := flatten_lines stream
  rw [none] at whole
  exact given whole.symm

/-- Behind a line feed, another line begins. -/
theorem lines_append {front : List UInt8} (ended : front.getLast? = some lineFeed)
    (rest : List UInt8) : lines (front ++ rest) = lines front ++ lines rest := by
  -- Each byte before the last line feed goes to the front of a line that is ended anyway.
  induction front with
  | nil => simp at ended
  | cons byte behind ih =>
    cases behind with
    | nil =>
      obtain rfl : byte = lineFeed := by simpa using ended
      simp [lines]
    | cons next others =>
      have later := ih (by simpa using ended)
      rw [List.cons_append, lines, lines]
      by_cases here : byte = lineFeed
      · rw [if_pos here, if_pos here, later]
        rfl
      · rw [if_neg here, if_neg here, later]
        obtain ⟨line, more, split⟩ :=
          List.exists_cons_of_ne_nil (lines_ne_nil (List.cons_ne_nil next others))
        rw [split]
        rfl

/-- Texts that are divided by line feeds, with one more at the end or without, are read as lines. -/
theorem lines_utf8_intercalate {texts : List String} (given : texts ≠ [])
    (single : ∀ text ∈ texts, text ≠ "" ∧ '\n' ∉ text.toList) {ending : String}
    (ends : ending = "" ∨ ending = "\n") :
    List.Forall₂ HasText (lines (utf8 (String.intercalate "\n" texts ++ ending))) texts := by
  -- The induction is on the texts; only the last of them depends on how the whole ends.
  induction texts with
  | nil => exact absurd rfl given
  | cons text rest ih =>
    obtain ⟨⟨nonempty, first⟩, others⟩ := List.forall_mem_cons.mp single
    have absent := lineFeed_not_mem_utf8 first
    cases rest with
    | nil =>
      rw [String.intercalate_singleton, utf8_append]
      rcases ends with rfl | rfl
      · have bytes : utf8 text ++ utf8 "" = utf8 text := List.append_nil _
        rw [bytes, lines_of_not_mem (utf8_ne_nil nonempty) absent]
        exact .cons (hasText_utf8 first) .nil
      · have bytes : utf8 text ++ utf8 "\n" = utf8 text ++ [lineFeed] := rfl
        rw [bytes, lines_append_cons absent]
        exact .cons (hasText_append_lineFeed text) .nil
    | cons next more =>
      -- The first line feed follows the first text.
      have bytes : utf8 (String.intercalate "\n" (text :: next :: more) ++ ending) =
          utf8 text ++ lineFeed :: utf8 (String.intercalate "\n" (next :: more) ++ ending) := by
        rw [String.intercalate_cons_cons, String.append_assoc, String.append_assoc, utf8_append,
          utf8_append]
        rfl
      rw [bytes, lines_append_cons absent]
      exact .cons (hasText_append_lineFeed text) (ih (by simp) others)

end TwoBody
