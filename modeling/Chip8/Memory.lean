import Chip8.Error

/-!
# Memory

Memory is a store of 4096 bytes.  Every access names its first address and its
length and is checked as a whole before anything is read or written: an access
that leaves memory fails and changes nothing, and none wraps around.

`byteAt` is the view in which the operations are described.
-/

namespace Chip8

/-- The bytes of memory. -/
structure Memory where
  /-- The byte at each address. -/
  bytes : Vector UInt8 Memory.size
  deriving DecidableEq

namespace Memory

/-- The byte at an address; zero behind the end. -/
def byteAt (memory : Memory) (address : Nat) : UInt8 :=
  memory.bytes[address]?.getD 0

/-- Change one byte; nothing happens behind the end. -/
def setByte (memory : Memory) (address : Nat) (value : UInt8) : Memory :=
  ⟨memory.bytes.setIfInBounds address value⟩

/-- Put bytes one after another from an address on. -/
def overwrite (memory : Memory) (address : Nat) : List UInt8 → Memory
  | [] => memory
  | value :: rest => (memory.setByte address value).overwrite (address + 1) rest

/-- Memory with the font and nothing else. -/
def withFont : Memory :=
  Memory.overwrite ⟨Vector.replicate size 0⟩ fontStart font

/--
Whether an access stays in memory.  The error names the first address that
does not exist.
-/
def checkAccess (start : UInt16) (length : Nat) : Except Error Unit :=
  if start.toNat + length ≤ size then .ok ()
  else .error (.addressOutOfBounds (max start.toNat size))

/-- The bytes of a stretch of memory. -/
def slice (memory : Memory) (start : UInt16) (length : Nat) :
    Except Error (List UInt8) :=
  (checkAccess start length).map fun () =>
    (List.range length).map fun offset => memory.byteAt (start.toNat + offset)

/-- One byte of memory. -/
def readByte (memory : Memory) (address : UInt16) : Except Error UInt8 :=
  (checkAccess address 1).map fun () => memory.byteAt address.toNat

/-- Two bytes of memory as a word, most significant byte first. -/
def readWord (memory : Memory) (address : UInt16) : Except Error UInt16 :=
  (checkAccess address 2).map fun () =>
    UInt16.ofNat
      (256 * (memory.byteAt address.toNat).toNat +
        (memory.byteAt (address.toNat + 1)).toNat)

/-- Put bytes into memory from an address on. -/
def write (memory : Memory) (start : UInt16) (data : List UInt8) :
    Except Error Memory :=
  (checkAccess start data.length).map fun () =>
    memory.overwrite start.toNat data

/-- Put one byte into memory. -/
def writeByte (memory : Memory) (address : UInt16) (value : UInt8) :
    Except Error Memory :=
  (checkAccess address 1).map fun () => memory.setByte address.toNat value

/-- Make every byte of a stretch of memory the same. -/
def fill (memory : Memory) (start : UInt16) (length : Nat) (value : UInt8) :
    Except Error Memory :=
  (checkAccess start length).map fun () =>
    memory.overwrite start.toNat (List.replicate length value)

/-! ## What the operations do to the view -/

theorem byteAt_setByte (memory : Memory) (address other : Nat) (value : UInt8) :
    (memory.setByte address value).byteAt other =
      if address = other ∧ other < size then value
      else memory.byteAt other := by
  simp only [byteAt, setByte, Vector.getElem?_setIfInBounds]
  grind

/-- Overwriting changes the bytes of its stretch and no other. -/
theorem byteAt_overwrite (memory : Memory) (address other : Nat)
    (data : List UInt8) :
    (memory.overwrite address data).byteAt other =
      if address ≤ other ∧ other < address + data.length ∧ other < size then
        data.getD (other - address) 0
      else memory.byteAt other := by
  induction data generalizing memory address with
  | nil =>
      rw [overwrite, if_neg (by simp only [List.length_nil]; omega)]
  | cons value rest step =>
      simp only [overwrite, step, byteAt_setByte, List.length_cons]
      rcases Nat.lt_trichotomy other address with before | same | after
      · rw [if_neg (by omega), if_neg (by omega), if_neg (by omega)]
      · subst same
        rw [if_neg (by omega)]
        by_cases inside : other < size
        · rw [if_pos ⟨rfl, inside⟩, if_pos (by omega)]
          simp
        · rw [if_neg (by omega), if_neg (by omega)]
      · have offset : other - address = (other - (address + 1)) + 1 := by
          omega
        rw [if_neg (show ¬(address = other ∧ other < size) by omega), offset,
          List.getD_cons_succ]
        by_cases inside : other < address + (rest.length + 1) ∧ other < size
        · rw [if_pos (by omega), if_pos (by omega)]
        · rw [if_neg (by omega), if_neg (by omega)]

/-- Memories with the same bytes are the same. -/
theorem ext_byteAt {first second : Memory}
    (same : ∀ address < size, first.byteAt address = second.byteAt address) :
    first = second := by
  obtain ⟨firstBytes⟩ := first
  obtain ⟨secondBytes⟩ := second
  congr 1
  apply Vector.ext
  intro address bound
  have agree := same address bound
  simpa only [byteAt, Vector.getElem?_eq_getElem bound, Option.getD_some]
    using agree

end Memory

end Chip8
