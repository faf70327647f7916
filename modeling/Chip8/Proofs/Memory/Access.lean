import Chip8.Memory.Loading

/-!
# Accesses inside of memory and beyond it

An access is judged as a whole.  One that stays in memory gives what the view
`byteAt` shows, or writes what it was given; one that leaves memory fails with
the address of its start or, if it started inside, with the first address that
does not exist.

A program that is not too long ends inside of memory, and in a memory with
nothing but the font there are zeros behind it.
-/

namespace Chip8

namespace Memory

/-- The bytes that the view shows on a stretch of addresses. -/
def stretch (memory : Memory) (start length : Nat) : List UInt8 :=
  (List.range length).map fun offset => memory.byteAt (start + offset)

@[simp]
theorem length_stretch (memory : Memory) (start length : Nat) :
    (memory.stretch start length).length = length := by
  rw [stretch, List.length_map, List.length_range]

/-- The word that the view shows, most significant byte first. -/
def wordAt (memory : Memory) (address : Nat) : UInt16 :=
  UInt16.ofNat
    (256 * (memory.byteAt address).toNat +
      (memory.byteAt (address + 1)).toNat)

theorem toNat_wordAt (memory : Memory) (address : Nat) :
    (memory.wordAt address).toNat =
      256 * (memory.byteAt address).toNat +
        (memory.byteAt (address + 1)).toNat := by
  have high := (memory.byteAt address).toNat_lt
  have low := (memory.byteAt (address + 1)).toNat_lt
  rw [wordAt, UInt16.toNat_ofNat']
  exact Nat.mod_eq_of_lt (by omega)

variable {memory : Memory} {start : UInt16} {length : Nat}

theorem checkAccess_inside (inside : start.toNat + length ≤ size) :
    checkAccess start length = .ok () :=
  if_pos inside

theorem checkAccess_outside (outside : size < start.toNat + length) :
    checkAccess start length =
      .error (.addressOutOfBounds (max start.toNat size)) :=
  if_neg (Nat.not_le_of_lt outside)

theorem slice_inside (inside : start.toNat + length ≤ size) :
    memory.slice start length =
      .ok (memory.stretch start.toNat length) := by
  rw [slice, checkAccess_inside inside]
  rfl

theorem slice_outside (outside : size < start.toNat + length) :
    memory.slice start length =
      .error (.addressOutOfBounds (max start.toNat size)) := by
  rw [slice, checkAccess_outside outside]
  rfl

theorem readWord_inside (inside : start.toNat + 2 ≤ size) :
    memory.readWord start = .ok (memory.wordAt start.toNat) := by
  rw [readWord, checkAccess_inside inside]
  rfl

theorem readWord_outside (outside : size < start.toNat + 2) :
    memory.readWord start =
      .error (.addressOutOfBounds (max start.toNat size)) := by
  rw [readWord, checkAccess_outside outside]
  rfl

theorem write_inside {data : List UInt8}
    (inside : start.toNat + data.length ≤ size) :
    memory.write start data = .ok (memory.overwrite start.toNat data) := by
  rw [write, checkAccess_inside inside]
  rfl

theorem write_outside {data : List UInt8}
    (outside : size < start.toNat + data.length) :
    memory.write start data =
      .error (.addressOutOfBounds (max start.toNat size)) := by
  rw [write, checkAccess_outside outside]
  rfl

/-! ## A program in memory -/

variable {program : List UInt8}

/-- A program that fits ends in memory. -/
theorem end_of_fits (fits : program.length ≤ programCapacity) :
    programStart + program.length ≤ size :=
  Nat.add_le_of_le_sub' (by decide) fits

/-- What is not too long passes the check of the write as well. -/
theorem load_of_fits (fits : program.length ≤ programCapacity) :
    memory.load program = .ok (memory.overwrite programStart program) := by
  have inside : (UInt16.ofNat programStart).toNat + program.length ≤ size :=
    end_of_fits fits
  rw [load, if_neg (Nat.not_lt_of_le fits), write_inside inside]
  rfl

theorem load_of_tooLarge (large : programCapacity < program.length) :
    memory.load program = .error (.programTooLarge program.length) :=
  if_pos large

theorem byteAt_withFont {address : Nat} (behind : programStart ≤ address) :
    withFont.byteAt address = 0 := by
  have past : ¬ address < fontStart + font.length := by
    have font_end : fontStart + font.length ≤ programStart := by decide
    omega
  rw [withFont, byteAt_overwrite, if_neg (fun inside => past inside.2.1),
    byteAt, Vector.getElem?_replicate]
  split <;> rfl

/-- Behind a program that is the only one loaded there are zeros. -/
theorem byteAt_program (program : List UInt8) {offset : Nat}
    (inside : programStart + offset < size) :
    (withFont.overwrite programStart program).byteAt (programStart + offset) =
      program.getD offset 0 := by
  rw [byteAt_overwrite]
  rcases Nat.lt_or_ge offset program.length with within | behind
  · rw [if_pos (by omega), Nat.add_sub_cancel_left]
  · rw [if_neg (by omega), byteAt_withFont (Nat.le_add_right _ _),
      List.getD_eq_getElem?_getD, List.getElem?_eq_none behind]
    rfl

end Memory

end Chip8
