import Chip8.File.Path
import Chip8.Rom.Digits
import Chip8.Text.Utf8

/-!
# Program files

The extension of a file tells how it holds a program: `ch8` and `c8` files hold
its bytes, `hex` files hold digits.  The case of the extension is ignored.  A
file with another extension is refused before anyone looks for it.
-/

namespace Chip8

/-- A file system: the bytes of the file at each path, or why there are none. -/
abbrev FileSystem := Path → Except IoError (List UInt8)

/-- How a file holds a program. -/
inductive RomFormat where
  /-- Byte by byte. -/
  | raw
  /-- As hexadecimal digits. -/
  | digits
  deriving DecidableEq

namespace Rom

/-- The byte of a letter of ASCII in lowercase; other bytes stay. -/
def lowercase (byte : UInt8) : UInt8 :=
  if 0x41 ≤ byte ∧ byte ≤ 0x5A then byte + 0x20 else byte

/-- The format that an extension names. -/
def formatOfExtension? (extension : FileName) : Option RomFormat :=
  let name := extension.map lowercase
  if name = Text.Utf8.encode "ch8" ∨ name = Text.Utf8.encode "c8" then
    some .raw
  else if name = Text.Utf8.encode "hex" then some .digits
  else none

/-- The format that the name of a file tells. -/
def format? (path : Path) : Option RomFormat :=
  path.extension?.bind formatOfExtension?

/-- The program that the bytes of a file hold. -/
def program (format : RomFormat) (contents : List UInt8) :
    Except Error (List UInt8) :=
  match format with
  | .raw => .ok contents
  | .digits =>
      match Text.Utf8.decode? contents with
      | none => .error (.io .notText)
      | some text => (Digits.parse text).mapError .invalidHex

/-- The program in the file at a path. -/
def load (read : FileSystem) (path : Path) : Except Error (List UInt8) :=
  match format? path with
  | none => .error (.unsupportedFormat path.text)
  | some format =>
      match read path with
      | .error error => .error (.io error)
      | .ok contents => program format contents

end Rom

end Chip8
