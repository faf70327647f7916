import Chip8.Text.Invisible

/-!
# Quoted text

A text between double quotes, or a character between single quotes, in a form
that shows every character: the quote and the backslash are escaped by a
backslash, four controls have short escapes, and every other invisible
character is given by its code point.
-/

namespace Chip8.Text.Quoted

/-- A character by its code point. -/
def codePoint (char : Char) : List Char :=
  ['\\', 'u', '\x7b'] ++ Nat.toDigits 16 char.toNat ++ ['\x7d']

/-- A character as it stands between two copies of `quote`. -/
def escape (quote char : Char) : List Char :=
  if char = '\x00' then ['\\', '0']
  else if char = '\t' then ['\\', 't']
  else if char = '\r' then ['\\', 'r']
  else if char = '\n' then ['\\', 'n']
  else if char = '\\' ∨ char = quote then ['\\', char]
  else if Invisible.isInvisible char then codePoint char
  else [char]

/-- A text between double quotes. -/
def ofString (text : String) : String :=
  String.ofList ('"' :: text.toList.flatMap (escape '"') ++ ['"'])

/-- A character between single quotes. -/
def ofChar (char : Char) : String :=
  String.ofList ('\'' :: escape '\'' char ++ ['\''])

end Chip8.Text.Quoted
