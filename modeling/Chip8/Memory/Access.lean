import Chip8.Memory.Loading

/-!
# Accesses as data

Everything that can be asked of a memory, as data, so that the history of a
memory is a list.  An access that fails leaves the memory as it was.
-/

namespace Chip8

namespace Memory

/-- What is asked of a memory. -/
inductive Access where
  /-- Read one byte. -/
  | readByte (address : UInt16)
  /-- Read two bytes as a word. -/
  | readWord (address : UInt16)
  /-- Read a stretch of bytes. -/
  | slice (start : UInt16) (length : Nat)
  /-- Write one byte. -/
  | writeByte (address : UInt16) (value : UInt8)
  /-- Write bytes one after another. -/
  | write (start : UInt16) (data : List UInt8)
  /-- Make every byte of a stretch the same. -/
  | fill (start : UInt16) (length : Nat) (value : UInt8)
  /-- Put a program at its place. -/
  | load (program : List UInt8)
  deriving DecidableEq

/-- What an access gives if it succeeds. -/
inductive Answer where
  | byte (value : UInt8)
  | word (value : UInt16)
  | bytes (values : List UInt8)
  /-- Nothing but that the bytes were written. -/
  | written
  deriving DecidableEq

/-- What a write leaves behind, which is the old memory if it failed. -/
def afterWrite (memory : Memory) :
    Except Error Memory → Except Error Answer × Memory
  | .ok changed => (.ok .written, changed)
  | .error error => (.error error, memory)

/-- The answer to an access, or its error, and the memory afterwards. -/
def Access.perform (memory : Memory) :
    Access → Except Error Answer × Memory
  | .readByte address => ((memory.readByte address).map .byte, memory)
  | .readWord address => ((memory.readWord address).map .word, memory)
  | .slice start length => ((memory.slice start length).map .bytes, memory)
  | .writeByte address value =>
      memory.afterWrite (memory.writeByte address value)
  | .write start data => memory.afterWrite (memory.write start data)
  | .fill start length value =>
      memory.afterWrite (memory.fill start length value)
  | .load program => memory.afterWrite (memory.load program)

/-- The memory after a history; an error does not end the history. -/
def after (memory : Memory) : (history : List Access) → Memory
  | [] => memory
  | access :: rest => (access.perform memory).2.after rest

end Memory

end Chip8
