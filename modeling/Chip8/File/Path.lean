import Chip8.Text.Utf8

/-!
# Paths

A path is a byte string; it need not be text.  Slashes separate its parts, and
empty parts and parts of one dot change nothing.  The name of a file is the
last part that counts, and its extension is what follows the last dot of the
name, unless that dot is the first byte of the name.
-/

namespace Chip8

/-- The name of a file or a directory. -/
abbrev FileName := List UInt8

/-- A path as bytes. -/
structure Path where
  /-- The bytes of the path. -/
  bytes : List UInt8
  deriving DecidableEq

namespace Path

/-- The byte of a slash. -/
def slash : UInt8 := 0x2F

/-- The byte of a dot. -/
def dot : UInt8 := 0x2E

/-- The part of a path that leads upwards. -/
def upward : FileName := [dot, dot]

/-- The path that a text spells. -/
def ofString (text : String) : Path :=
  ⟨Text.Utf8.encode text⟩

/-- The path as text, with U+FFFD for what is no text. -/
def text (path : Path) : String :=
  Text.Utf8.decodeLossy path.bytes

/-- Whether the path starts with a slash. -/
def isAbsolute (path : Path) : Bool :=
  path.bytes.head? == some slash

/-- The parts between slashes. -/
def parts (path : Path) : List FileName :=
  path.bytes.splitOn slash

/-- The parts that count. -/
def steps (path : Path) : List FileName :=
  path.parts.filter fun part => !(part.isEmpty || part == [dot])

/-- The name of the file, unless the path ends by going up. -/
def fileName? (path : Path) : Option FileName :=
  path.steps.getLast?.filter fun name => name != upward

/-- What follows the last dot of a name, if the dot is not the first byte. -/
def nameExtension? (name : FileName) : Option FileName :=
  let ending := name.reverse.takeWhile fun byte => byte != dot
  if ending.length + 1 < name.length then some ending.reverse else none

/-- The extension of the name of the file. -/
def extension? (path : Path) : Option FileName :=
  path.fileName?.bind nameExtension?

end Path

end Chip8
