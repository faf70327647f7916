import Chip8.Memory

/-!
# Loading programs

A program is put at its place as a whole or, if it does not fit, not at all.
It may come from a reader, which gives it piece by piece; a reader that fails
loads nothing, however much it gave before.
-/

namespace Chip8

/-- What one read from a reader gives. -/
inductive Read where
  /-- Some bytes; none at the end. -/
  | bytes (data : List UInt8)
  /-- Nothing: the reader failed. -/
  | failed (error : IoError)
  deriving DecidableEq

namespace Read

/-- Everything that a reader gives before its end, unless it fails. -/
def untilEnd : List Read → Except IoError (List UInt8)
  | [] => .ok []
  | .failed error :: _ => .error error
  | .bytes [] :: _ => .ok []
  | .bytes (byte :: data) :: rest =>
      (untilEnd rest).map fun later => byte :: data ++ later

/-- The reads of a reader that gives at most `limit` bytes at once, or one. -/
def inPieces (limit : Nat) : (data : List UInt8) → List Read
  | [] => []
  | byte :: rest =>
      .bytes (byte :: rest.take (limit - 1)) ::
        inPieces limit (rest.drop (limit - 1))
termination_by data => data.length
decreasing_by
  simp only [List.length_drop, List.length_cons]
  omega

end Read

namespace Memory

/-- Put a program at its place. -/
def load (memory : Memory) (program : List UInt8) : Except Error Memory :=
  if programCapacity < program.length then
    .error (.programTooLarge program.length)
  else memory.write (UInt16.ofNat programStart) program

/-- Put the program that a reader gives at its place. -/
def loadFrom (memory : Memory) (reader : List Read) : Except Error Memory :=
  match Read.untilEnd reader with
  | .ok program => memory.load program
  | .error error => .error (.io error)

end Memory

end Chip8
