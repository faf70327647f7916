import Chip8.Memory

/-!
# Changes of memory

Two memories are compared by the runs of consecutive addresses at which their
bytes differ, ascending, each with its first address and its new bytes.
-/

namespace Chip8

namespace Memory

/--
The runs at which two byte strings differ, the first byte being at `place`.
-/
def changedRuns (place : Nat) :
    (before after : List UInt8) → List (Nat × List UInt8)
  | old :: before, new :: after =>
      let later := changedRuns (place + 1) before after
      if old = new then later
      else
        match later with
        | (start, run) :: others =>
            if start = place + 1 then (place, new :: run) :: others
            else (place, [new]) :: later
        | [] => [(place, [new])]
  | _, _ => []

/-- The runs at which this memory differs from an earlier one. -/
def changesSince (memory earlier : Memory) : List (Nat × List UInt8) :=
  changedRuns 0 earlier.bytes.toList memory.bytes.toList

end Memory

end Chip8
