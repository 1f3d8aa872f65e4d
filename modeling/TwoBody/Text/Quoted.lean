import TwoBody.Inspect
import TwoBody.Text.Invisible

/-! Quoted text: a string between quotation marks in which every character can be seen. -/

namespace TwoBody

/-- The hexadecimal digits of a character's number, between braces. -/
def codePoint (character : Char) : List Char :=
  '\\' :: 'u' :: '\x7b' :: (Nat.toDigits 16 character.toNat ++ ['\x7d'])

/-- A character of a quoted text. -/
def quotedChar (character : Char) : List Char :=
  match character with
  | '\x00' => ['\\', '0']
  | '\t' => ['\\', 't']
  | '\r' => ['\\', 'r']
  | '\n' => ['\\', 'n']
  | '"' => ['\\', '"']
  | '\\' => ['\\', '\\']
  | other => if isInvisible other then codePoint other else [other]

/-- The text between quotation marks, with escapes for what would not be seen. -/
def quoted (text : String) : String :=
  String.ofList ('"' :: (text.toList.flatMap quotedChar ++ ['"']))

/-- Names that are strings are shown quoted. -/
instance : Inspect String where
  inspect := quoted

end TwoBody
