import Chip8.Proofs.Machine.Footprint

/-!
# Saving registers in memory

Fx55 saves the first registers behind the index register, and Fx65 brings them
back.  Both name the last register, both are about one byte more than its
number, and neither moves the index register.  So it does not matter what is
executed between the two as long as the index register and the saved bytes are
in the end as they were; `SameWindow` is this agreement, and `Spares` says it of
one instruction after another.

Fx33 saves the decimal digits of a register likewise.  They are taken before
anything is written, and F265 may give them to the register they came from.
-/

namespace Chip8

/--
Whatever its operands are, the instruction moves no index register and writes
no byte of memory.
-/
def Instruction.leavesWindows : Instruction → Bool
  | .loadIndex _ | .addIndex _ | .loadGlyph _ => false
  | .storeDecimal _ | .storeRegisters _ => false
  | _ => true

namespace Machine

/-- What an attempt to execute an instruction leaves behind. -/
def attempt (machine : Machine) (pc : UInt16) (instruction : Instruction) :
    Machine :=
  match machine.execute pc instruction with
  | .ok after => after
  | .error _ => machine

/-- What is left after several instructions, each with its address. -/
def attemptAll (machine : Machine) : List (UInt16 × Instruction) → Machine
  | [] => machine
  | (pc, instruction) :: rest => (machine.attempt pc instruction).attemptAll rest

/-- The same index register and the same bytes from there on. -/
structure SameWindow (length : Nat) (before after : Machine) : Prop where
  index : after.index = before.index
  bytes : ∀ offset < length,
    after.memory.byteAt (before.index.toNat + offset) =
      before.memory.byteAt (before.index.toNat + offset)

/-- Each instruction, when its turn comes, leaves the window as it is. -/
def Spares (length : Nat) (machine : Machine) :
    List (UInt16 × Instruction) → Prop
  | [] => True
  | (pc, instruction) :: rest =>
      SameWindow length machine (machine.attempt pc instruction) ∧
        Spares length (machine.attempt pc instruction) rest

variable {machine : Machine} {pc : UInt16} {instruction : Instruction}
  {length : Nat} {k x : Nibble}

/-! ## What is executed in between -/

theorem SameWindow.trans {later last : Machine}
    (first : SameWindow length machine later)
    (second : SameWindow length later last) :
    SameWindow length machine last where
  index := second.index.trans first.index
  bytes offset inside := by
    have same := second.bytes offset inside
    rw [first.index] at same
    exact same.trans (first.bytes offset inside)

/-- Instructions that leave the window one by one leave it together. -/
theorem Spares.sameWindow {code : List (UInt16 × Instruction)}
    (spares : Spares length machine code) :
    SameWindow length machine (machine.attemptAll code) := by
  induction code generalizing machine with
  | nil => exact ⟨rfl, fun _ _ => rfl⟩
  | cons entry rest ih => exact spares.1.trans (ih spares.2)

/-- An attempt takes the effect of its instruction, or it changes nothing. -/
theorem attempt_eq_or (machine : Machine) (pc : UInt16)
    (instruction : Instruction) :
    machine.attempt pc instruction = machine.effect instruction ∨
      machine.attempt pc instruction = machine := by
  rw [attempt, execute_eq]
  cases machine.fault? pc instruction with
  | none => exact .inl rfl
  | some error => exact .inr rfl

theorem sameWindow_attempt (machine : Machine) (pc : UInt16)
    (leaves : instruction.leavesWindows = true) :
    SameWindow length machine (machine.attempt pc instruction) := by
  rcases machine.attempt_eq_or pc instruction with effected | kept
  · rw [effected]
    constructor
    · rw [effect_index]
      cases instruction with
      | loadIndex | addIndex | loadGlyph => cases leaves
      | _ => rfl
    · intro offset _
      apply byteAt_effect
      cases instruction with
      | storeDecimal | storeRegisters => cases leaves
      | _ => exact id
  · rw [kept]
    exact ⟨rfl, fun _ _ => rfl⟩

theorem spares_of_leavesWindows {code : List (UInt16 × Instruction)}
    (leaves : ∀ entry ∈ code, entry.2.leavesWindows = true) :
    Spares length machine code := by
  induction code generalizing machine with
  | nil => trivial
  | cons entry rest ih =>
      obtain ⟨first, others⟩ := List.forall_mem_cons.mp leaves
      exact ⟨machine.sameWindow_attempt entry.1 first, ih others⟩

/-! ## Registers and bytes -/

@[simp]
theorem index_storeRegisters :
    (machine.effect (.storeRegisters x)).index = machine.index :=
  machine.effect_index _

@[simp]
theorem index_loadRegisters :
    (machine.effect (.loadRegisters x)).index = machine.index :=
  machine.effect_index _

@[simp]
theorem index_storeDecimal :
    (machine.effect (.storeDecimal x)).index = machine.index :=
  machine.effect_index _

theorem getD_firstRegisters (inside : k ≤ x) :
    (machine.firstRegisters x).getD k.val 0 = machine.register k := by
  have taken : k.val < x.val + 1 := Nat.lt_succ_of_le inside
  have bound : k.val < machine.registers.toList.length := by
    rw [Vector.length_toList]
    exact k.val_lt
  rw [List.getD_eq_getElem?_getD, firstRegisters,
    List.getElem?_take_of_lt taken, List.getElem?_eq_getElem bound,
    Option.getD_some, Vector.getElem_toList]
  rfl

theorem register_loadRegisters (inside : k ≤ x) :
    (machine.effect (.loadRegisters x)).register k =
      machine.memory.byteAt (machine.index.toNat + k.val) := by
  have taken : k.val < x.val + 1 := Nat.lt_succ_of_le inside
  simp only [effect, register, setFirstRegisters, Vector.getElem_ofFn,
    Memory.stretch, List.getElem?_map, List.getElem?_range taken,
    Option.map_some, Option.getD_some]

theorem byteAt_overwrite_index {data : List UInt8} {offset : Nat}
    (fits : machine.index.toNat + data.length ≤ Memory.size)
    (inside : offset < data.length) :
    (machine.memory.overwrite machine.index.toNat data).byteAt
        (machine.index.toNat + offset) =
      data.getD offset 0 := by
  rw [Memory.byteAt_overwrite, if_pos (by omega), Nat.add_sub_cancel_left]

theorem byteAt_storeRegisters
    (fits : machine.index.toNat + x.val + 1 ≤ Memory.size)
    (inside : k ≤ x) :
    (machine.effect (.storeRegisters x)).memory.byteAt
        (machine.index.toNat + k.val) =
      machine.register k := by
  have length := machine.length_firstRegisters x
  rw [← getD_firstRegisters inside]
  exact byteAt_overwrite_index (by omega)
    (length ▸ Nat.lt_succ_of_le inside)

theorem register_loadRegisters_gt (later : x < k) :
    (machine.effect (.loadRegisters x)).register k = machine.register k :=
  register_effect machine (Fin.not_le.mpr later)

/-! ## There and back -/

theorem execute_of_sound (sound : machine.fault? pc instruction = none) :
    machine.execute pc instruction = .ok (machine.effect instruction) := by
  rw [execute_eq, sound]

theorem execute_storeRegisters
    (fits : machine.index.toNat + x.val + 1 ≤ Memory.size) :
    machine.execute pc (.storeRegisters x) =
      .ok (machine.effect (.storeRegisters x)) :=
  execute_of_sound (accessFault?_inside fits)

theorem execute_loadRegisters
    (fits : machine.index.toNat + x.val + 1 ≤ Memory.size) :
    machine.execute pc (.loadRegisters x) =
      .ok (machine.effect (.loadRegisters x)) :=
  execute_of_sound (accessFault?_inside fits)

/-- What was saved comes back from a window that is as it was. -/
theorem register_loadRegisters_of_sameWindow {later : Machine}
    (fits : machine.index.toNat + x.val + 1 ≤ Memory.size)
    (same : SameWindow (x.val + 1) (machine.effect (.storeRegisters x)) later)
    (inside : k ≤ x) :
    (later.effect (.loadRegisters x)).register k = machine.register k := by
  have bytes := same.bytes k.val (Nat.lt_succ_of_le inside)
  rw [index_storeRegisters] at bytes
  rw [register_loadRegisters inside, same.index, index_storeRegisters, bytes,
    byteAt_storeRegisters fits inside]

/-- Saving what was just read writes every byte over itself. -/
theorem memory_store_load
    (fits : machine.index.toNat + x.val + 1 ≤ Memory.size) :
    ((machine.effect (.loadRegisters x)).effect (.storeRegisters x)).memory =
      machine.memory := by
  have kept : (machine.effect (.loadRegisters x)).memory = machine.memory :=
    machine.effect_memory _
  apply Memory.ext_byteAt
  intro address _
  by_cases written : machine.index.toNat ≤ address ∧
      address < machine.index.toNat + (x.val + 1)
  · obtain ⟨offset, rfl⟩ := Nat.exists_eq_add_of_le written.1
    have below : offset < x.val + 1 := by omega
    have small : offset < 16 := Nat.lt_of_lt_of_le below x.val_lt
    have inside : (⟨offset, small⟩ : Nibble) ≤ x := Nat.le_of_lt_succ below
    have fits' : (machine.effect (.loadRegisters x)).index.toNat + x.val + 1 ≤
        Memory.size := by
      rw [index_loadRegisters]
      exact fits
    have stored := byteAt_storeRegisters fits' inside
    rw [index_loadRegisters, register_loadRegisters inside] at stored
    exact stored
  · rw [byteAt_effect, kept]
    rw [index_loadRegisters]
    rintro ⟨first, last⟩
    exact written ⟨first, Nat.lt_succ_of_le last⟩

/-! ## Decimal digits -/

theorem execute_storeDecimal
    (fits : machine.index.toNat + 3 ≤ Memory.size) :
    machine.execute pc (.storeDecimal x) =
      .ok (machine.effect (.storeDecimal x)) :=
  execute_of_sound (accessFault?_inside fits)

theorem register_load_storeDecimal
    (fits : machine.index.toNat + 3 ≤ Memory.size) (inside : k ≤ 2) :
    ((machine.effect (.storeDecimal x)).effect (.loadRegisters 2)).register k =
      (decimalDigits (machine.register x)).getD k.val 0 := by
  rw [register_loadRegisters inside, index_storeDecimal]
  exact byteAt_overwrite_index fits (Nat.lt_succ_of_le inside)

/-- The digits stand for the byte, the most significant one first. -/
theorem decimalDigits_value (value : UInt8) (digit : Nibble → UInt8)
    (digits : ∀ k ≤ 2, digit k = (decimalDigits value).getD k.val 0) :
    (∀ k ≤ 2, (digit k).toNat ≤ 9) ∧
      100 * (digit 0).toNat + 10 * (digit 1).toNat + (digit 2).toNat =
        value.toNat := by
  have bound := value.toNat_lt
  have hundreds : (digit 0).toNat = value.toNat / 100 :=
    congrArg UInt8.toNat (digits 0 (by decide))
  have tens : (digit 1).toNat = value.toNat / 10 % 10 :=
    congrArg UInt8.toNat (digits 1 (by decide))
  have ones : (digit 2).toNat = value.toNat % 10 :=
    congrArg UInt8.toNat (digits 2 (by decide))
  constructor
  · intro k inside
    match k with
    | 0 => omega
    | 1 => omega
    | 2 => omega
  · omega

/--
Fx55 saves V0 to Vx and Fx65 restores them, whatever is executed in between that
leaves the index register and the saved bytes as they were; the registers after
Vx keep what came of them.  Fx65 and then Fx55 leave memory as it was.  After
Fx33 and F265 the first three registers are the decimal digits of Vx, also if
Vx is one of them.
-/
theorem registers_saved_and_restored (machine : Machine) (x : Nibble)
    (pc pc' : UInt16) :
    (machine.index.toNat + x.val + 1 ≤ 4096 →
      (∃ saved, machine.execute pc (.storeRegisters x) = .ok saved ∧
        saved.index = machine.index ∧
        ∀ between, SameWindow (x.val + 1) saved (saved.attemptAll between) →
          ∃ restored,
            (saved.attemptAll between).execute pc' (.loadRegisters x) =
              .ok restored ∧
            restored.index = machine.index ∧
            (∀ k ≤ x, restored.register k = machine.register k) ∧
            ∀ k, x < k → restored.register k =
              (saved.attemptAll between).register k) ∧
      ∃ read, machine.execute pc (.loadRegisters x) = .ok read ∧
        read.index = machine.index ∧
        ∃ written, read.execute pc' (.storeRegisters x) = .ok written ∧
          written.index = machine.index ∧
          written.memory = machine.memory) ∧
    (machine.index.toNat + 3 ≤ 4096 →
      ∃ stored, machine.execute pc (.storeDecimal x) = .ok stored ∧
        ∃ read, stored.execute pc' (.loadRegisters 2) = .ok read ∧
          read.index = machine.index ∧
          (∀ k ≤ 2, (read.register k).toNat ≤ 9) ∧
          100 * (read.register 0).toNat + 10 * (read.register 1).toNat +
              (read.register 2).toNat =
            (machine.register x).toNat ∧
          ∀ k, 2 < k → read.register k = machine.register k) := by
  refine ⟨fun fits => ⟨?_, ?_⟩, fun fits => ?_⟩
  · refine ⟨_, execute_storeRegisters fits, index_storeRegisters, ?_⟩
    intro between same
    have unmoved := same.index.trans index_storeRegisters
    have fits' := fits
    rw [← unmoved] at fits'
    exact ⟨_, execute_loadRegisters fits', index_loadRegisters.trans unmoved,
      fun _ inside => register_loadRegisters_of_sameWindow fits same inside,
      fun _ later => register_loadRegisters_gt later⟩
  · have fits' := fits
    rw [← index_loadRegisters (x := x)] at fits'
    exact ⟨_, execute_loadRegisters fits, index_loadRegisters, _,
      execute_storeRegisters fits',
      index_storeRegisters.trans index_loadRegisters, memory_store_load fits⟩
  · obtain ⟨small, sum⟩ := decimalDigits_value (machine.register x) _
      fun k inside => register_load_storeDecimal fits inside
    have fits' := fits
    rw [← index_storeDecimal (x := x)] at fits'
    refine ⟨_, execute_storeDecimal fits, _, execute_loadRegisters fits',
      index_loadRegisters.trans index_storeDecimal, small, sum, ?_⟩
    intro k later
    rw [register_loadRegisters_gt later]
    exact register_effect machine id

/-- A machine whose index register is three bytes before the end of memory. -/
def savingMachine : Machine :=
  { powerUp (.ofSeed 0) with
    registers := .ofFn fun number => UInt8.ofNat (17 * number.val)
    index := 0xFFD }

/-- Two instructions that change the saved registers and one that fails. -/
def overwritingCode : List (UInt16 × Instruction) :=
  [(0x202, .loadByte 0 7), (0x204, .leave), (0x206, .shiftLeft 2)]

/-- V0 to V2 come back, and then V2 gives way to its own digits. -/
theorem savingMachine_restored :
    (∃ saved restored,
      savingMachine.execute 0x200 (.storeRegisters 2) = .ok saved ∧
        (saved.attemptAll overwritingCode).execute 0x208 (.loadRegisters 2) =
          .ok restored ∧
        ∀ k ≤ 2, restored.register k = savingMachine.register k) ∧
    ∃ stored read,
      savingMachine.execute 0x200 (.storeDecimal 2) = .ok stored ∧
        stored.execute 0x202 (.loadRegisters 2) = .ok read ∧
        100 * (read.register 0).toNat + 10 * (read.register 1).toNat +
          (read.register 2).toNat = 34 := by
  constructor
  · obtain ⟨saving, -⟩ :=
      registers_saved_and_restored savingMachine 2 0x200 0x208
    obtain ⟨saved, stores, -, restoring⟩ := (saving (by decide)).1
    have spares : Spares 3 saved overwritingCode :=
      spares_of_leavesWindows (by decide)
    obtain ⟨restored, loads, -, same, -⟩ :=
      restoring overwritingCode spares.sameWindow
    exact ⟨saved, restored, stores, loads, same⟩
  · obtain ⟨-, decimal⟩ :=
      registers_saved_and_restored savingMachine 2 0x200 0x202
    obtain ⟨stored, stores, read, loads, -, -, sum, -⟩ := decimal (by decide)
    exact ⟨stored, read, stores, loads, sum⟩

end Machine

end Chip8
