import TwoBody.Orbit.Variable

/-! Variables read from JSON: a name in a string, or an object whose one member has that name. -/

namespace TwoBody.Json

/-- The white space of JSON. -/
def isBlank (character : Char) : Bool :=
  character == ' ' || character == '\t' || character == '\n' || character == '\r'

/-- The text behind a token and the white space before it. -/
def token? (token : String) (text : List Char) : Option (List Char) :=
  let start := text.dropWhile isBlank
  if token.toList.isPrefixOf start then some (start.drop token.length) else none

/-- The text ends here, perhaps after white space. -/
def atEnd (text : List Char) : Bool :=
  text.all isBlank

/-- The value of a hexadecimal digit. -/
def hexDigit? (character : Char) : Option Nat :=
  let code := character.toNat
  if character.isDigit then some (code - '0'.toNat)
  else if 'a' ≤ character ∧ character ≤ 'f' then some (code - 'a'.toNat + 10)
  else if 'A' ≤ character ∧ character ≤ 'F' then some (code - 'A'.toNat + 10)
  else none

/-- The character with the given number; halves of surrogate pairs are not characters. -/
def character? (first second third fourth : Char) : Option Char := do
  let code := 4096 * (← hexDigit? first) + 256 * (← hexDigit? second) +
    16 * (← hexDigit? third) + (← hexDigit? fourth)
  if 0xd800 ≤ code ∧ code ≤ 0xdfff then none else return Char.ofNat code

/-- The character that a backslash and one more character stand for. -/
def escape? : Char → Option Char
  | '"' => some '"'
  | '\\' => some '\\'
  | '/' => some '/'
  | 'b' => some '\x08'
  | 'f' => some '\x0c'
  | 'n' => some '\n'
  | 'r' => some '\r'
  | 't' => some '\t'
  | _ => none

/--
The content of a string behind its opening mark, and the text behind its closing mark.

Surrogate pairs are refused with other malformed escapes, as no variable has one in its name.
-/
def content? : List Char → Option (List Char × List Char)
  | [] => none
  | '"' :: rest => some ([], rest)
  | '\\' :: 'u' :: first :: second :: third :: fourth :: rest => do
    let character ← character? first second third fourth
    let (content, after) ← content? rest
    return (character :: content, after)
  | '\\' :: mark :: rest => do
    let character ← escape? mark
    let (content, after) ← content? rest
    return (character :: content, after)
  | character :: rest =>
    if character.toNat < 0x20 then none
    else do
      let (content, after) ← content? rest
      return (character :: content, after)

/-- A string at the start of a text, and the text behind it. -/
def string? (text : List Char) : Option (String × List Char) := do
  let (content, after) ← content? (← token? "\"" text)
  return (String.ofList content, after)

/-- An object with one member, whose value is `null`, and the text behind it. -/
def nullMember? (text : List Char) : Option (String × List Char) := do
  let (name, after) ← string? (← token? "\x7b" text)
  let after ← token? ":" after
  let after ← token? "null" after
  let after ← token? "\x7d" after
  return (name, after)

end TwoBody.Json

namespace TwoBody.Orbit

/-- Reads a variable from a whole JSON text. -/
def Variable.ofJson? (text : String) : Option Variable := do
  let (name, after) ← (Json.string? text.toList).or (Json.nullMember? text.toList)
  let symbol ← Variable.ofName? name
  if Json.atEnd after then return symbol else none

end TwoBody.Orbit
