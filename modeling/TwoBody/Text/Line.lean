/-! Lines of a byte stream, and the text of a line. -/

namespace TwoBody

/-- The byte that ends a line. -/
def lineFeed : UInt8 := 10

/-- The byte that may stand before the end of a line. -/
def carriageReturn : UInt8 := 13

/-- The lines of a byte stream, each with the byte that ends it; only the last may lack one. -/
def lines : List UInt8 → List (List UInt8)
  | [] => []
  | byte :: rest =>
    if byte = lineFeed then [byte] :: lines rest
    else
      match lines rest with
      | [] => [[byte]]
      | line :: others => (byte :: line) :: others

/-- The lines of a stream make up the whole stream. -/
theorem flatten_lines (stream : List UInt8) : (lines stream).flatten = stream := by
  -- Every byte goes to the front of the first line.
  induction stream with
  | nil => rfl
  | cons byte rest ih =>
    simp only [lines]
    split
    · simp [ih]
    · split
      · rename_i none
        simp [none] at ih
        simp [← ih]
      · rename_i line others some
        simp [some] at ih
        simp [ih]

/-- A line without the bytes that end it. -/
def unterminated (line : List UInt8) : List UInt8 :=
  match line.reverse with
  | last :: before =>
    if last = lineFeed then
      match before with
      | previous :: earlier =>
        if previous = carriageReturn then earlier.reverse else before.reverse
      | [] => []
    else line
  | [] => []

/-- The text of a line, unless its bytes are not valid UTF-8. -/
def lineText? (line : List UInt8) : Option String :=
  String.fromUTF8? ⟨(unterminated line).toArray⟩

end TwoBody
