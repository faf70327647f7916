import Chip8.Proofs.Machine.Bounds

/-!
# Checked steps

A checked step takes nothing for granted.  It looks up every register, every
byte of memory and every pixel by its number, which has to exist, and every sum
of words has to be a word again, also where it is cut to twelve bits
afterwards.  Where the machine would fall back to a default or wrap around, a
checked step has no result at all.

The main theorem says that the checked step of a bounded machine is its step,
so no step of a reachable machine ever relies on a default or on wrapping.
-/

namespace Chip8

/-- The sum of two numbers as a word, if it is one. -/
def checkedSum (first second : Nat) : Option UInt16 :=
  if first + second < 0x10000 then some (UInt16.ofNat (first + second))
  else none

/-- The items at successive numbers, each of which has to exist. -/
def collect {α : Type} (item : Nat → Option α) (start : Nat) :
    (length : Nat) → Option (List α)
  | 0 => some []
  | length + 1 => do
      let first ← item start
      let rest ← collect item (start + 1) length
      some (first :: rest)

namespace Memory

def checkedByte (memory : Memory) (address : Nat) : Option UInt8 :=
  memory.bytes[address]?

/-- The bytes of an access that is judged first. -/
def checkedSlice (memory : Memory) (start : UInt16) (length : Nat) :
    Option (Except Error (List UInt8)) :=
  match checkAccess start length with
  | .error error => some (.error error)
  | .ok () => (collect memory.checkedByte start.toNat length).map .ok

/-- Put bytes at successive addresses, each of which has to exist. -/
def checkedOverwrite (memory : Memory) (address : Nat) :
    List UInt8 → Option Memory
  | [] => some memory
  | value :: rest =>
      if inside : address < size then
        checkedOverwrite ⟨memory.bytes.set address value inside⟩
          (address + 1) rest
      else none

/-- Put bytes into memory by an access that is judged first. -/
def checkedWrite (memory : Memory) (start : UInt16) (data : List UInt8) :
    Option (Except Error Memory) :=
  match checkAccess start data.length with
  | .error error => some (.error error)
  | .ok () => (memory.checkedOverwrite start.toNat data).map .ok

end Memory

namespace Frame

/-- Turn over a pixel at a place that has to exist, and tell how it was. -/
def checkedFlip (frame : Frame) (x y : Nat) : Option (Frame × Bool) :=
  let number := x % 64 + y % 32 * 64
  if inside : number < 64 * 32 then
    let lit := getElem frame.pixels number inside
    some (⟨frame.pixels.set number (!lit) inside⟩, lit)
  else none

/-- Turn over pixels and tell whether one of them was lit. -/
def checkedFlipAll (frame : Frame) :
    List (Nat × Nat) → Option (Frame × Bool)
  | [] => some (frame, false)
  | (x, y) :: rest => do
      let flipped ← frame.checkedFlip x y
      let later ← flipped.1.checkedFlipAll rest
      some (later.1, flipped.2 || later.2)

end Frame

namespace Machine

/-- The value of the register with a number that has to exist. -/
def checkedRegister (machine : Machine) (number : Nat) : Option UInt8 :=
  machine.registers[number]?

/-- Change the register with a number that has to exist. -/
def checkedSet (machine : Machine) (number : Nat) (value : UInt8) :
    Option Machine :=
  if inside : number < 16 then
    some { machine with
      registers := machine.registers.set number value inside }
  else none

/-- Change registers with successive numbers that have to exist. -/
def checkedSetAll (machine : Machine) (number : Nat) :
    List UInt8 → Option Machine
  | [] => some machine
  | value :: rest => do
      let after ← machine.checkedSet number value
      after.checkedSetAll (number + 1) rest

def checkedSetWithFlag (machine : Machine) (number : Nat) (value : UInt8)
    (flag : Bool) : Option Machine := do
  let after ← machine.checkedSet number value
  after.checkedSet 0xF flag.toUInt8

end Machine

/-- Whether a condition holds, with its registers looked up. -/
def Condition.checkedHolds (machine : Machine) : Condition → Option Bool
  | .equalsByte x kk => do
      let vx ← machine.checkedRegister x.val
      some (vx == kk)
  | .differsFromByte x kk => do
      let vx ← machine.checkedRegister x.val
      some (vx != kk)
  | .equalsRegister x y => do
      let vx ← machine.checkedRegister x.val
      let vy ← machine.checkedRegister y.val
      some (vx == vy)
  | .differsFromRegister x y => do
      let vx ← machine.checkedRegister x.val
      let vy ← machine.checkedRegister y.val
      some (vx != vy)
  | .keyDown x => do
      let vx ← machine.checkedRegister x.val
      some (machine.keypad.isPressed vx)
  | .keyUp x => do
      let vx ← machine.checkedRegister x.val
      some (!machine.keypad.isPressed vx)

namespace Machine

/--
Execute an instruction with everything looked up.  The instructions at the end
look nothing up and add nothing.
-/
def checkedExecute (machine : Machine) (pc : UInt16) :
    Instruction → Option (Except Error Machine)
  | .skipIf condition => do
      let holds ← condition.checkedHolds machine
      if holds then
        let next ← checkedSum machine.programCounter.toNat 2
        some (.ok { machine with programCounter := next })
      else some (.ok machine)
  | .loadByte x kk => do
      let after ← machine.checkedSet x.val kk
      some (.ok after)
  | .addByte x kk => do
      let vx ← machine.checkedRegister x.val
      let after ← machine.checkedSet x.val (vx + kk)
      some (.ok after)
  | .combine arithmetic x y => do
      let vx ← machine.checkedRegister x.val
      let vy ← machine.checkedRegister y.val
      let after ←
        match arithmetic.flag? vx vy with
        | none => machine.checkedSet x.val (arithmetic.value vx vy)
        | some flag =>
            machine.checkedSetWithFlag x.val (arithmetic.value vx vy) flag
      some (.ok after)
  | .shiftRight x => do
      let vx ← machine.checkedRegister x.val
      let after ←
        machine.checkedSetWithFlag x.val (vx >>> 1) (vx.toNat.testBit 0)
      some (.ok after)
  | .shiftLeft x => do
      let vx ← machine.checkedRegister x.val
      let after ←
        machine.checkedSetWithFlag x.val (vx <<< 1) (vx.toNat.testBit 7)
      some (.ok after)
  | .jumpOffset nnn => do
      let v0 ← machine.checkedRegister 0
      let target ← checkedSum nnn.val v0.toNat
      some (.ok { machine with programCounter := target &&& 0x0FFF })
  | .random x kk => do
      let (byte, random) := machine.random.next
      let after ← { machine with random }.checkedSet x.val (byte &&& kk)
      some (.ok after)
  | .draw x y n => do
      match ← machine.memory.checkedSlice machine.index n.val with
      | .error error => some (.error error)
      | .ok sprite =>
          let vx ← machine.checkedRegister x.val
          let vy ← machine.checkedRegister y.val
          let drawn ← machine.frame.checkedFlipAll
            (Frame.spritePoints vx.toNat vy.toNat sprite)
          let after ← { machine with frame := drawn.1 }.checkedSet 0xF
            drawn.2.toUInt8
          some (.ok after)
  | .readDelay x => do
      let after ← machine.checkedSet x.val machine.delayTimer
      some (.ok after)
  | .setDelay x => do
      let vx ← machine.checkedRegister x.val
      some (.ok { machine with delayTimer := vx })
  | .setSound x => do
      let vx ← machine.checkedRegister x.val
      some (.ok { machine with soundTimer := vx })
  | .addIndex x => do
      let vx ← machine.checkedRegister x.val
      let sum ← checkedSum machine.index.toNat vx.toNat
      some (.ok { machine with index := sum &&& 0x0FFF })
  | .loadGlyph x => do
      let vx ← machine.checkedRegister x.val
      let sum ← checkedSum Memory.fontStart
        (Memory.glyphSize * (Nibble.lower vx).val)
      some (.ok { machine with index := sum })
  | .storeDecimal x => do
      let vx ← machine.checkedRegister x.val
      let written ← machine.memory.checkedWrite machine.index
        (decimalDigits vx)
      some (written.map fun memory => { machine with memory })
  | .storeRegisters x => do
      let values ← collect machine.checkedRegister 0 (x.val + 1)
      let written ← machine.memory.checkedWrite machine.index values
      some (written.map fun memory => { machine with memory })
  | .loadRegisters x => do
      match ← machine.memory.checkedSlice machine.index (x.val + 1) with
      | .error error => some (.error error)
      | .ok values =>
          let after ← machine.checkedSetAll 0 values
          some (.ok after)
  | instruction => some (machine.execute pc instruction)

/-- The step of a waiting machine with its register looked up. -/
def checkedPollKey (machine : Machine) (x : Nibble) :
    Option (Activity LogRecord Error Machine Outcome) :=
  match machine.keypad.lowestPressed? with
  | none => some (.done .waitingForKey machine)
  | some key => do
      let after ← machine.checkedSet x.val key.toByte
      some ⟨.ok (.keyReceived key), { after with keyWait := none },
        [.released key x]⟩

/-- The step of a machine that runs with everything looked up. -/
def checkedRunWord (machine : Machine) :
    Option (Activity LogRecord Error Machine Outcome) := do
  let pc := machine.programCounter
  match ← machine.memory.checkedSlice pc 2 with
  | .error error => some ⟨.error error, machine, []⟩
  | .ok bytes =>
      let high ← bytes[0]?
      let low ← bytes[1]?
      let word := UInt16.ofNat (256 * high.toNat + low.toNat)
      let instruction := Instruction.decode word
      let next ← checkedSum pc.toNat 2
      let advanced := { machine with programCounter := next }
      let trace := .fetched pc word instruction :: instruction.records pc
      match ← advanced.checkedExecute pc instruction with
      | .error error => some ⟨.error error, advanced, trace⟩
      | .ok after => some ⟨.ok (.executed instruction), after, trace⟩

/-- One step with everything looked up. -/
def checkedStep (machine : Machine) :
    Option (Activity LogRecord Error Machine Outcome) :=
  if machine.paused then some (.done .paused machine)
  else
    match machine.keyWait with
    | some x => machine.checkedPollKey x
    | none => machine.checkedRunWord

end Machine

/-! ## Lookups that succeed -/

theorem checkedSum_eq (first second : Nat)
    (small : first + second < 0x10000) :
    checkedSum first second = some (UInt16.ofNat (first + second)) :=
  if_pos small

/-- The next address but one, for every address up to the end of memory. -/
theorem checkedSum_two {pc : UInt16} (below : pc.toNat ≤ 0x1000) :
    checkedSum pc.toNat 2 = some (pc + 2) := by
  rw [checkedSum_eq pc.toNat 2 (by omega)]
  rfl

/-- A sum that is cut to twelve bits is a sum of addresses. -/
theorem checkedSum_masked (first second : Nat) :
    UInt16.ofNat (first + second) &&& 0x0FFF =
      Machine.addressSum first second := by
  apply UInt16.toNat.inj
  rw [UInt16.toNat_and, UInt16.toNat_ofNat', Machine.toNat_addressSum]
  change (first + second) % 2 ^ 16 &&& 2 ^ 12 - 1 = (first + second) % 4096
  rw [Nat.and_two_pow_sub_one_eq_mod]
  omega

theorem collect_eq {α : Type} {item : Nat → Option α} {value : Nat → α}
    {start length : Nat}
    (present : ∀ number, number < start + length →
      item number = some (value number)) :
    collect item start length =
      some ((List.range length).map fun offset => value (start + offset)) := by
  induction length generalizing start with
  | zero => rfl
  | succ length step =>
      have first := present start (by omega)
      have later : ∀ number, number < start + 1 + length →
          item number = some (value number) :=
        fun number below => present number (by omega)
      have rest := step later
      simp only [collect, first, rest, Option.bind_eq_bind,
        Option.bind_some, List.range_succ_eq_map, List.map_cons,
        List.map_map, Nat.add_zero]
      congr 2
      apply List.map_congr_left
      intro offset _
      simp only [Function.comp, Nat.succ_eq_add_one]
      congr 1
      omega

namespace Memory

theorem checkedByte_eq (memory : Memory) {address : Nat}
    (inside : address < size) :
    memory.checkedByte address = some (memory.byteAt address) := by
  rw [checkedByte, byteAt, Vector.getElem?_eq_getElem inside]
  rfl

/-- A slice looks up existing bytes only, or nothing. -/
theorem checkedSlice_eq (memory : Memory) (start : UInt16) (length : Nat) :
    memory.checkedSlice start length =
      some (memory.slice start length) := by
  rcases Nat.lt_or_ge size (start.toNat + length) with outside | inside
  · rw [checkedSlice, checkAccess_outside outside, slice_outside outside]
  · have bytes : collect memory.checkedByte start.toNat length =
        some (memory.stretch start.toNat length) :=
      collect_eq fun number below =>
        memory.checkedByte_eq (Nat.lt_of_lt_of_le below inside)
    rw [checkedSlice, checkAccess_inside inside, slice_inside inside]
    change (collect memory.checkedByte start.toNat length).map Except.ok = _
    rw [bytes]
    rfl

theorem setByte_inside (memory : Memory) {address : Nat} (value : UInt8)
    (inside : address < size) :
    memory.setByte address value =
      ⟨memory.bytes.set address value inside⟩ := by
  rw [setByte]
  apply congrArg Memory.mk
  apply Vector.ext
  intro number _
  rw [Vector.getElem_setIfInBounds, Vector.getElem_set]

theorem checkedOverwrite_eq {memory : Memory} {address : Nat}
    {data : List UInt8} (inside : address + data.length ≤ size) :
    memory.checkedOverwrite address data =
      some (memory.overwrite address data) := by
  induction data generalizing memory address with
  | nil => rfl
  | cons value rest step =>
      rw [List.length_cons] at inside
      have here : address < size := by omega
      rw [checkedOverwrite, dif_pos here, overwrite,
        memory.setByte_inside value here]
      exact step (by omega)

/-- A write changes existing bytes only, or nothing. -/
theorem checkedWrite_eq (memory : Memory) (start : UInt16)
    (data : List UInt8) :
    memory.checkedWrite start data = some (memory.write start data) := by
  rcases Nat.lt_or_ge size (start.toNat + data.length) with outside | inside
  · rw [checkedWrite, checkAccess_outside outside, write_outside outside]
  · rw [checkedWrite, checkAccess_inside inside, write_inside inside]
    change (memory.checkedOverwrite start.toNat data).map Except.ok = _
    rw [checkedOverwrite_eq inside]
    rfl

end Memory

namespace Frame

theorem checkedFlip_eq (frame : Frame) (x y : Nat) :
    frame.checkedFlip x y = some (frame.flip x y, frame.pixel x y) := by
  have inside : x % 64 + y % 32 * 64 < 64 * 32 := by omega
  have same : x % 64 + y % 32 * 64 = (place x y).val := by
    simp only [place]
    omega
  rw [checkedFlip, dif_pos inside]
  simp only [same]
  rfl

/-- Drawing turns over existing pixels only. -/
theorem checkedFlipAll_eq (frame : Frame) (points : List (Nat × Nat)) :
    frame.checkedFlipAll points = some (frame.flipAll points) := by
  induction points generalizing frame with
  | nil => rfl
  | cons point rest step =>
      obtain ⟨x, y⟩ := point
      rw [checkedFlipAll, checkedFlip_eq]
      change (do
        let later ← (frame.flip x y).checkedFlipAll rest
        some (later.1, frame.pixel x y || later.2)) = _
      rw [step]
      rfl

end Frame

namespace Machine

@[simp]
theorem checkedRegister_eq (machine : Machine) (x : Nibble) :
    machine.checkedRegister x.val = some (machine.register x) :=
  Vector.getElem?_eq_getElem x.val_lt

@[simp]
theorem checkedSet_eq (machine : Machine) (x : Nibble) (value : UInt8) :
    machine.checkedSet x.val value = some (machine.setRegister x value) :=
  dif_pos x.val_lt

@[simp]
theorem checkedSetWithFlag_eq (machine : Machine) (x : Nibble)
    (value : UInt8) (flag : Bool) :
    machine.checkedSetWithFlag x.val value flag =
      some (machine.setWithFlag x value flag) := by
  rw [checkedSetWithFlag, checkedSet_eq]
  exact checkedSet_eq _ flagRegister _

@[simp]
theorem checkedHolds_eq (machine : Machine) (condition : Condition) :
    condition.checkedHolds machine = some (condition.holds machine) := by
  cases condition <;>
    simp [Condition.checkedHolds, Condition.holds]

theorem collect_registers (machine : Machine) (x : Nibble) :
    collect machine.checkedRegister 0 (x.val + 1) =
      some (machine.firstRegisters x) := by
  have present : ∀ number, number < 0 + (x.val + 1) →
      machine.checkedRegister number =
        some (machine.registers[number]?.getD 0) := by
    intro number below
    have inside : number < 16 := by omega
    rw [checkedRegister, Vector.getElem?_eq_getElem inside]
    rfl
  rw [collect_eq present]
  congr 1
  apply List.ext_getElem
  · simp
  · intro number below _
    rw [List.length_map, List.length_range] at below
    have inside : number < 16 := by omega
    simp [firstRegisters, Vector.getElem?_eq_getElem inside]

/-- Registers from one on are changed as far as there are values. -/
theorem checkedSetAll_eq {machine : Machine} {number : Nat}
    {values : List UInt8} (fits : number + values.length ≤ 16) :
    machine.checkedSetAll number values =
      some { machine with
        registers := Vector.ofFn fun register =>
          if number ≤ register.val then
            values[register.val - number]?.getD (machine.register register)
          else machine.register register } := by
  induction values generalizing machine number with
  | nil =>
      have same : machine.registers =
          Vector.ofFn fun register =>
            if number ≤ register.val then
              ([] : List UInt8)[register.val - number]?.getD
                (machine.register register)
            else machine.register register := by
        apply Vector.ext
        intro place inside
        simp [register]
      rw [checkedSetAll, ← same]
  | cons value rest step =>
      rw [List.length_cons] at fits
      have here : number < 16 := by omega
      have first : machine.checkedSet number value =
          some (machine.setRegister ⟨number, here⟩ value) :=
        machine.checkedSet_eq ⟨number, here⟩ value
      rw [checkedSetAll, first]
      change (machine.setRegister ⟨number, here⟩ value).checkedSetAll
        (number + 1) rest = _
      rw [step (by omega)]
      refine congrArg
        (fun registers => some { machine with registers := registers }) ?_
      apply Vector.ext
      intro place inside
      simp only [Vector.getElem_ofFn, register_setRegister, Fin.ext_iff]
      rcases Nat.lt_trichotomy place number with before | same | after
      · rw [if_neg (by omega), if_neg (by omega), if_neg (by omega)]
      · subst same
        rw [if_neg (by omega), if_pos rfl, if_pos (Nat.le_refl _),
          Nat.sub_self]
        rfl
      · have offset : place - number = place - (number + 1) + 1 := by omega
        rw [if_pos (by omega), if_neg (by omega), if_pos (by omega),
          offset, List.getElem?_cons_succ]

theorem checkedSetAll_zero {machine : Machine} {values : List UInt8}
    (fits : values.length ≤ 16) :
    machine.checkedSetAll 0 values =
      some (machine.setFirstRegisters values) := by
  rw [checkedSetAll_eq (by omega)]
  simp [setFirstRegisters]

/-! ## The checked step is the step -/

variable {machine : Machine}

/-- Between fetch and execution no lookup fails and no sum is too large. -/
theorem checkedExecute_eq (pc : UInt16) (instruction : Instruction)
    (index_le : machine.index.toNat ≤ 0xFFF)
    (here : machine.programCounter.toNat ≤ 0x1000) :
    machine.checkedExecute pc instruction =
      some (machine.execute pc instruction) := by
  have byte_le : ∀ x, (machine.register x).toNat ≤ 0xFF := by
    intro x
    have below := (machine.register x).toNat_lt
    omega
  cases instruction with
  | skipIf condition =>
      have sum := checkedSum_two here
      cases holds : condition.holds machine <;>
        simp [checkedExecute, execute, skipIf, holds, sum]
  | combine arithmetic x y =>
      cases flag : arithmetic.flag? (machine.register x)
          (machine.register y) <;>
        simp [checkedExecute, execute, combine, flag]
  | jumpOffset nnn =>
      have sum := checkedSum_eq nnn.val (machine.register 0).toNat
        (by have := byte_le 0; omega)
      have zero : machine.checkedRegister 0 = some (machine.register 0) :=
        machine.checkedRegister_eq 0
      simp only [checkedExecute, zero, sum, Option.bind_eq_bind,
        Option.bind_some, checkedSum_masked]
      rfl
  | addIndex x =>
      have sum := checkedSum_eq machine.index.toNat
        (machine.register x).toNat (by have := byte_le x; omega)
      simp only [checkedExecute, checkedRegister_eq, sum,
        Option.bind_eq_bind, Option.bind_some, checkedSum_masked]
      rfl
  | loadGlyph x =>
      have sum := checkedSum_eq Memory.fontStart
        (Memory.glyphSize * (Nibble.lower (machine.register x)).val)
        (by simp only [Memory.fontStart, Memory.glyphSize]; omega)
      simp only [checkedExecute, checkedRegister_eq, sum,
        Option.bind_eq_bind, Option.bind_some]
      rfl
  | draw x y n =>
      have flagged : ∀ (other : Machine) (value : UInt8),
          other.checkedSet 0xF value =
            some (other.setRegister flagRegister value) :=
        fun other value => other.checkedSet_eq flagRegister value
      cases sprite : machine.memory.slice machine.index n.val <;>
        simp [checkedExecute, execute, Memory.checkedSlice_eq, sprite,
          Frame.checkedFlipAll_eq, Frame.drawSprite, flagged, Except.map]
  | storeDecimal x =>
      simp [checkedExecute, execute, Memory.checkedWrite_eq]
  | storeRegisters x =>
      simp [checkedExecute, execute, Memory.checkedWrite_eq,
        collect_registers]
  | loadRegisters x =>
      rcases Nat.lt_or_ge Memory.size (machine.index.toNat + (x.val + 1))
        with outside | inside
      · simp [checkedExecute, execute, Memory.checkedSlice_eq,
          Memory.slice_outside outside, Except.map]
      · have fits : (machine.memory.stretch machine.index.toNat
            (x.val + 1)).length ≤ 16 := by
          rw [Memory.length_stretch]
          omega
        simp [checkedExecute, execute, Memory.checkedSlice_eq,
          Memory.slice_inside inside, checkedSetAll_zero fits, Except.map]
  | _ => simp [checkedExecute, execute]

@[simp]
theorem checkedPollKey_eq (machine : Machine) (x : Nibble) :
    machine.checkedPollKey x = some (machine.pollKey x) := by
  rw [checkedPollKey, pollKey]
  cases machine.keypad.lowestPressed? with
  | none => rfl
  | some key => simp

/-- A fetch finds its two bytes and its successor, or leaves memory. -/
theorem Bounded.checkedRunWord_eq (bounded : Bounded machine) :
    machine.checkedRunWord = some machine.runWord := by
  rcases Nat.lt_or_ge Memory.size (machine.programCounter.toNat + 2) with
    outside | inside
  · rw [runWord_outside outside]
    simp only [checkedRunWord, Memory.checkedSlice_eq,
      Memory.slice_outside outside, Option.bind_eq_bind, Option.bind_some]
  · have bytes : machine.memory.slice machine.programCounter 2 =
        .ok [machine.memory.byteAt machine.programCounter.toNat,
          machine.memory.byteAt (machine.programCounter.toNat + 1)] :=
      Memory.slice_inside inside
    have high : machine.programCounter.toNat ≤ 0x1000 := by
      simp only [Memory.size] at inside
      omega
    have sum : checkedSum machine.programCounter.toNat 2 =
        some (machine.programCounter + 2) :=
      checkedSum_two high
    have further := bounded.advanced inside
    have here : machine.advanced.programCounter.toNat ≤ 0x1000 := by
      rw [toNat_advanced inside]
      exact inside
    have executed := checkedExecute_eq machine.programCounter
      machine.nextInstruction further.index_le here
    simp only [checkedRunWord, Memory.checkedSlice_eq, bytes, sum,
      List.getElem?_cons_zero, List.getElem?_cons_succ,
      Option.bind_eq_bind, Option.bind_some]
    rw [runWord, Memory.readWord_inside inside]
    change (machine.advanced.checkedExecute machine.programCounter
      machine.nextInstruction).bind _ = _
    rw [executed]
    change _ = some
      (match machine.advanced.execute machine.programCounter
          machine.nextInstruction with
        | .error error => _
        | .ok after => _)
    cases machine.advanced.execute machine.programCounter
        machine.nextInstruction <;> rfl

theorem Bounded.checkedStep_eq (bounded : Bounded machine) :
    machine.checkedStep = some machine.step := by
  cases halted : machine.paused with
  | true =>
      rw [step_of_paused halted, checkedStep, halted]
      rfl
  | false =>
      cases wait : machine.keyWait with
      | some x =>
          rw [step_of_waiting halted wait, checkedStep, halted, wait]
          exact machine.checkedPollKey_eq x
      | none =>
          rw [step_of_idle halted wait, checkedStep, halted, wait]
          exact bounded.checkedRunWord_eq

/--
Whatever is done to a machine after it was built, it stays in its bounds, and
its step looks nothing up that does not exist and has no sum that wraps.
-/
theorem after_bounded_and_checked {start : Machine} (built : Built start)
    (operations : List Operation) :
    Bounded (start.after operations) ∧
      (start.after operations).checkedStep =
        some (start.after operations).step := by
  have reachable : Reachable (start.after operations) :=
    ⟨start, operations, built, rfl⟩
  have bounded := reachable.bounded
  exact ⟨bounded, bounded.checkedStep_eq⟩

/-- A program that puts a skip into the last word of memory and runs it. -/
def edgeProgram : List UInt8 :=
  [0x60, 0x40, 0xAF, 0xFE, 0xF0, 0x55, 0x1F, 0xFE]

def edgeMachine : Machine :=
  { powerUp (.ofSeed 0) with
    memory := Memory.withFont.overwrite Memory.programStart edgeProgram }

/-- The bounds hold where the program counter is as high as it can be. -/
theorem edgeMachine_bounded_and_checked :
    let machine := edgeMachine.after (List.replicate 5 .step)
    Built edgeMachine ∧ machine.programCounter = 0x1002 ∧
      Bounded machine ∧ machine.checkedStep = some machine.step := by
  have loaded : Machine.withProgram (.ofSeed 0) edgeProgram =
      .ok edgeMachine := rfl
  have built : Built edgeMachine := .withProgram loaded
  refine ⟨built, by decide +kernel, ?_⟩
  exact after_bounded_and_checked built (List.replicate 5 .step)

end Machine

end Chip8
