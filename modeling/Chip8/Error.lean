import Chip8.Memory.Layout
import Chip8.Text.Hex
import Chip8.Text.Quoted
import Chip8.Text.Record

/-!
# What can go wrong

Each error is a cause.  `message` gives its wording for people and `asRecord`
shows it with its parts.  A word that is no instruction is not an error: it is
reported and skipped.
-/

namespace Chip8

open Text

/-- Why a file or a device could not be used. -/
inductive IoError where
  /-- There is no such file. -/
  | notFound
  /-- A file stands where the path needs a directory. -/
  | notDirectory
  /-- A directory stands where the path needs a file. -/
  | isDirectory
  /-- The path, or a name in it, is too long. -/
  | nameTooLong
  /-- A file of text is not UTF-8. -/
  | notText
  /-- The path has a NUL byte. -/
  | nulInName
  /-- A device failed with this message. -/
  | device (message : String)
  deriving DecidableEq

namespace IoError

/-- The kind of an error. -/
def kind : IoError → String
  | .notFound => "NotFound"
  | .notDirectory => "NotADirectory"
  | .isDirectory => "IsADirectory"
  | .nameTooLong => "InvalidFilename"
  | .notText => "InvalidData"
  | .nulInName => "InvalidInput"
  | .device _ => "Other"

/-- The wording of an error, without the number of the file system. -/
def reason : IoError → String
  | .notFound => "No such file or directory"
  | .notDirectory => "Not a directory"
  | .isDirectory => "Is a directory"
  | .nameTooLong => "File name too long"
  | .notText => "stream did not contain valid UTF-8"
  | .nulInName => "file name contained an unexpected NUL byte"
  | .device message => message

/-- The number by which the file system reports an error, if it does. -/
def systemNumber? : IoError → Option Nat
  | .notFound => some 2
  | .notDirectory => some 20
  | .isDirectory => some 21
  | .nameTooLong => some 36
  | .notText => none
  | .nulInName => none
  | .device _ => none

/-- The wording of an error. -/
def message (error : IoError) : String :=
  match error.systemNumber? with
  | some number => error.reason ++ " (os error " ++ toString number ++ ")"
  | none => error.reason

/-- An error written out: the name tells who reported it. -/
def asRecord (error : IoError) : String :=
  match error.systemNumber?, error with
  | some number, _ =>
      Record.withFields "Os"
        [("code", toString number), ("kind", error.kind),
          ("message", Quoted.ofString error.reason)]
  | none, .device message =>
      Record.withFields "Custom"
        [("kind", error.kind), ("error", Quoted.ofString message)]
  | none, _ =>
      Record.withFields "Error"
        [("kind", error.kind), ("message", Quoted.ofString error.reason)]

end IoError

/-- Why a text is not a program in hexadecimal digits. -/
inductive HexDefect where
  /-- The number of digits is odd. -/
  | oddDigits (count : Nat)
  /-- One of these two characters is no digit. -/
  | notByte (high low : Char)
  deriving DecidableEq

/-- The wording of a defect. -/
def HexDefect.message : HexDefect → String
  | .oddDigits count =>
      "odd number of hex digits (" ++ toString count ++ ")"
  | .notByte high low => "not a hex byte: " ++ String.ofList [high, low]

/-- Everything that can stop the machine or keep it from starting. -/
inductive Error where
  /-- A call at this address had sixteen callers already. -/
  | stackOverflow (pc : UInt16)
  /-- A return at this address had no caller. -/
  | stackUnderflow (pc : UInt16)
  /-- A program of this many bytes does not fit. -/
  | programTooLarge (size : Nat)
  /--
  An access left memory.  The address is the one where the access started or,
  if it started inside, the first one behind the end.
  -/
  | addressOutOfBounds (address : Nat)
  /-- The name of this program file tells no known format. -/
  | unsupportedFormat (path : String)
  /-- A program file of digits is malformed. -/
  | invalidHex (defect : HexDefect)
  /-- A file or a device could not be used. -/
  | io (error : IoError)
  deriving DecidableEq

namespace Error

/-- An address after the mark of hexadecimal numbers. -/
def marked (address : Nat) : String :=
  "0x" ++ Hex.padded 4 address

/-- The wording of an error. -/
def message : Error → String
  | .stackOverflow pc =>
      "call stack overflow at " ++ marked pc.toNat ++
        ": more than 16 nested calls"
  | .stackUnderflow pc =>
      "call stack underflow at " ++ marked pc.toNat ++
        ": return with an empty stack"
  | .programTooLarge size =>
      "program is too large (" ++ toString size ++ " bytes), max size is " ++
        toString Memory.programCapacity ++ " bytes"
  | .addressOutOfBounds address =>
      "memory access out of bounds at address " ++ marked address
  | .unsupportedFormat path => "unsupported program file format: " ++ path
  | .invalidHex defect => "invalid hex program: " ++ defect.message
  | .io error => "I/O error: " ++ error.message

/-- An error written out. -/
def asRecord : Error → String
  | .stackOverflow pc =>
      Record.withFields "StackOverflow" [("pc", toString pc.toNat)]
  | .stackUnderflow pc =>
      Record.withFields "StackUnderflow" [("pc", toString pc.toNat)]
  | .programTooLarge size =>
      Record.withFields "ProgramTooLarge"
        [("size", toString size), ("max", toString Memory.programCapacity)]
  | .addressOutOfBounds address =>
      Record.withFields "AddressOutOfBounds" [("addr", toString address)]
  | .unsupportedFormat path =>
      Record.withPart "UnsupportedRomFormat" (Quoted.ofString path)
  | .invalidHex defect =>
      Record.withPart "InvalidHexRom" (Quoted.ofString defect.message)
  | .io error => Record.withPart "Io" error.asRecord

end Error

/-- Why a sound device could not be used. -/
structure SoundError where
  /-- The wording of the error. -/
  message : String
  deriving DecidableEq

end Chip8
