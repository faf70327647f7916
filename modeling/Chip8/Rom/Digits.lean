import Chip8.Error
import Chip8.Text.Blank

/-!
# Programs in hexadecimal digits

A program may be written as text: two digits for each byte, in either case,
with white space anywhere, also between the two digits of a byte.  The number
of digits is judged before the digits themselves, and of several malformed
bytes the first one is reported.
-/

namespace Chip8.Rom.Digits

open Text

/-- The characters of a text that are no white space. -/
def significant (text : String) : List Char :=
  text.toList.filter fun char => !Blank.isBlank char

/-- The bytes that pairs of digits write; a digit left over is ignored. -/
def bytesOf : List Char → Except HexDefect (List UInt8)
  | high :: low :: rest =>
      match Hex.byteValue? high low with
      | some byte => (bytesOf rest).map fun later => byte :: later
      | none => .error (.notByte high low)
  | _ => .ok []

/-- The bytes that a text writes. -/
def parse (text : String) : Except HexDefect (List UInt8) :=
  let digits := significant text
  if digits.length % 2 = 0 then bytesOf digits
  else .error (.oddDigits digits.length)

end Chip8.Rom.Digits
