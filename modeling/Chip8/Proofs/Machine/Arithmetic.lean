import Chip8.Proofs.Machine.Calls
import Chip8.Proofs.Machine.Footprint

/-!
# Arithmetic in numbers

The arithmetic instructions compute modulo 256, and five of them tell in the
flag what the modulus has swallowed.  Their operands are read before anything
is written, and the flag is written last.  So what they leave is told by the old
numbers alone, also where a register is combined with itself or is the flag
register: as the first operand the flag register keeps the flag.

`Computes` and `ComputesWithFlag` say what a step leaves behind, and one lemma
for each of them leads from the effect of an instruction to such a step.
-/

namespace Chip8

namespace Arithmetic

/-- What an operation makes of two numbers below 256. -/
def number (a b : Nat) : Arithmetic → Nat
  | .move => b
  | .or => a ||| b
  | .and => a &&& b
  | .xor => a ^^^ b
  | .add => (a + b) % 256
  | .subtract => (256 + a - b) % 256
  | .subtractReverse => (256 + b - a) % 256

/-- What an operation tells in the flag, if anything. -/
def flagNumber? (a b : Nat) : Arithmetic → Option Nat
  | .add => some (if 255 < a + b then 1 else 0)
  | .subtract => some (if b < a then 1 else 0)
  | .subtractReverse => some (if a < b then 1 else 0)
  | _ => none

theorem toNat_value (vx vy : UInt8) (arithmetic : Arithmetic) :
    (arithmetic.value vx vy).toNat = arithmetic.number vx.toNat vy.toNat := by
  have vx_lt := vx.toNat_lt
  have vy_lt := vy.toNat_lt
  cases arithmetic with
  | move => rfl
  | or => exact UInt8.toNat_or vx vy
  | and => exact UInt8.toNat_and vx vy
  | xor => exact UInt8.toNat_xor vx vy
  | add => exact UInt8.toNat_add vx vy
  | subtract =>
      rw [value, number, UInt8.toNat_sub]
      omega
  | subtractReverse =>
      rw [value, number, UInt8.toNat_sub]
      omega

theorem toNat_toUInt8 (flag : Bool) :
    flag.toUInt8.toNat = if flag then 1 else 0 := by
  cases flag <;> rfl

theorem flagNumber?_eq (vx vy : UInt8) (arithmetic : Arithmetic) :
    arithmetic.flagNumber? vx.toNat vy.toNat =
      (arithmetic.flag? vx vy).map fun flag => flag.toUInt8.toNat := by
  cases arithmetic with
  | move | or | and | xor => rfl
  | add | subtract | subtractReverse =>
      simp only [flag?, flagNumber?, Option.map_some, toNat_toUInt8,
        UInt8.lt_iff_toNat_lt, decide_eq_true_eq]

end Arithmetic

namespace Machine

open Instruction

/-- The next step executes an instruction that only gives Vx a number. -/
structure Computes (machine : Machine) (instruction : Instruction)
    (x : Nibble) (value : Nat) : Prop where
  executed : machine.step.result = .ok (.executed instruction)
  value_eq : (machine.step.state.register x).toNat = value
  kept : ∀ k, k ≠ x → machine.step.state.register k = machine.register k
  rest : machine.step.state =
    { machine with
      programCounter := machine.programCounter + 2
      registers := machine.step.state.registers }

/--
The next step executes an instruction that only gives Vx a number and then VF
another one, which wins if Vx is VF.
-/
structure ComputesWithFlag (machine : Machine) (instruction : Instruction)
    (x : Nibble) (value flag : Nat) : Prop where
  executed : machine.step.result = .ok (.executed instruction)
  flag_eq : (machine.step.state.register flagRegister).toNat = flag
  value_eq : x ≠ flagRegister →
    (machine.step.state.register x).toNat = value
  kept : ∀ k, k ≠ x → k ≠ flagRegister →
    machine.step.state.register k = machine.register k
  rest : machine.step.state =
    { machine with
      programCounter := machine.programCounter + 2
      registers := machine.step.state.registers }

variable {machine : Machine} {word : UInt16} {instruction : Instruction}
  {x y : Nibble} {value : UInt8} {flag : Bool}

/-! ## From effects to steps -/

/-- A word is executed as what it is decoded to, if that never fails. -/
theorem Fetches.step_decoded (fetches : machine.Fetches word)
    (decoded : decode word = instruction)
    (sound : machine.fault? machine.programCounter instruction = none) :
    machine.step.result = .ok (.executed instruction) ∧
      machine.step.state = machine.advanced.effect instruction := by
  have next : machine.nextInstruction = instruction := by
    rw [nextInstruction, fetches.word_eq, decoded]
  rw [← next] at sound ⊢
  exact fetches.step_of_sound sound

theorem Fetches.computes (fetches : machine.Fetches word)
    (decoded : decode word = instruction)
    (sound : machine.fault? machine.programCounter instruction = none)
    (effected : machine.advanced.effect instruction =
      machine.advanced.setRegister x value) :
    Computes machine instruction x value.toNat := by
  rcases fetches.step_decoded decoded sound with ⟨executed, state⟩
  rw [effected] at state
  constructor
  · exact executed
  · rw [state, register_setRegister, if_pos rfl]
  · intro k other
    rw [state]
    exact register_setRegister_ne other value
  · rw [state]
    rfl

theorem Fetches.computesWithFlag (fetches : machine.Fetches word)
    (decoded : decode word = instruction)
    (sound : machine.fault? machine.programCounter instruction = none)
    (effected : machine.advanced.effect instruction =
      machine.advanced.setWithFlag x value flag) :
    ComputesWithFlag machine instruction x value.toNat
      flag.toUInt8.toNat := by
  rcases fetches.step_decoded decoded sound with ⟨executed, state⟩
  rw [effected] at state
  constructor
  · exact executed
  · rw [state, setWithFlag, register_setRegister, if_pos rfl]
  · intro noFlag
    rw [state, setWithFlag, register_setRegister_ne noFlag,
      register_setRegister, if_pos rfl]
  · intro k other noFlag
    rw [state]
    exact register_setWithFlag_ne other noFlag value flag
  · rw [state]
    rfl

/-! ## The instructions -/

/-- Combining two registers without a flag. -/
theorem Fetches.computes_combine {arithmetic : Arithmetic}
    (fetches : machine.Fetches (wordOf 0x8 x y (arithmeticCode arithmetic)))
    (silent : ∀ a b, arithmetic.flagNumber? a b = none) :
    Computes machine (.combine arithmetic x y) x
      (arithmetic.number (machine.register x).toNat
        (machine.register y).toNat) := by
  have unset :
      arithmetic.flag? (machine.register x) (machine.register y) = none := by
    have told := arithmetic.flagNumber?_eq (machine.register x)
      (machine.register y)
    rw [silent] at told
    exact Option.map_eq_none_iff.mp told.symm
  rw [← Arithmetic.toNat_value]
  apply fetches.computes (@decode_encode (.combine arithmetic x y) trivial) rfl
  -- The registers are those from before the program counter was moved.
  exact @combine_of_silent machine.advanced arithmetic x y unset

/-- Combining two registers with a flag. -/
theorem Fetches.computes_combine_flag {arithmetic : Arithmetic} {told : Nat}
    (fetches : machine.Fetches (wordOf 0x8 x y (arithmeticCode arithmetic)))
    (telling : arithmetic.flagNumber? (machine.register x).toNat
      (machine.register y).toNat = some told) :
    ComputesWithFlag machine (.combine arithmetic x y) x
      (arithmetic.number (machine.register x).toNat
        (machine.register y).toNat) told := by
  rw [Arithmetic.flagNumber?_eq] at telling
  rcases Option.map_eq_some_iff.mp telling with ⟨flag, set, rfl⟩
  rw [← Arithmetic.toNat_value]
  apply fetches.computesWithFlag
    (@decode_encode (.combine arithmetic x y) trivial) rfl
  exact @combine_of_told machine.advanced arithmetic x y flag set

/-- A shift by one, with the bit that is shifted out. -/
theorem Fetches.computes_shiftRight
    (fetches : machine.Fetches (wordOf 0x8 x y 0x6)) :
    ComputesWithFlag machine (.shiftRight x) x
      ((machine.register x).toNat / 2) ((machine.register x).toNat % 2) := by
  have halved : (machine.register x >>> 1).toNat =
      (machine.register x).toNat / 2 := by
    rw [UInt8.toNat_shiftRight]
    exact Nat.shiftRight_eq_div_pow _ 1
  have lowest : ((machine.register x).toNat.testBit 0).toUInt8.toNat =
      (machine.register x).toNat % 2 := by
    rw [Arithmetic.toNat_toUInt8, Nat.testBit_zero]
    simp only [decide_eq_true_eq]
    split
    · omega
    · omega
  rw [← halved, ← lowest]
  exact fetches.computesWithFlag (decode_shiftRight x y) rfl rfl

theorem Fetches.computes_shiftLeft
    (fetches : machine.Fetches (wordOf 0x8 x y 0xE)) :
    ComputesWithFlag machine (.shiftLeft x) x
      (2 * (machine.register x).toNat % 256)
      (if 128 ≤ (machine.register x).toNat then 1 else 0) := by
  have bound := (machine.register x).toNat_lt
  have doubled : (machine.register x <<< 1).toNat =
      2 * (machine.register x).toNat % 256 := by
    rw [UInt8.toNat_shiftLeft, Nat.mul_comm]
    exact congrArg (· % 256) (Nat.shiftLeft_eq _ 1)
  have highest : ((machine.register x).toNat.testBit 7).toUInt8.toNat =
      if 128 ≤ (machine.register x).toNat then 1 else 0 := by
    rw [Arithmetic.toNat_toUInt8, Nat.testBit_eq_decide_div_mod_eq]
    simp only [decide_eq_true_eq]
    congr 1
    rw [eq_iff_iff]
    omega
  rw [← doubled, ← highest]
  exact fetches.computesWithFlag (decode_shiftLeft x y) rfl rfl

theorem Fetches.computes_addByte {kk : UInt8}
    (fetches : machine.Fetches (wordOfByte 0x7 x kk)) :
    Computes machine (.addByte x kk) x
      (((machine.register x).toNat + kk.toNat) % 256) := by
  have added : (machine.register x + kk).toNat =
      ((machine.register x).toNat + kk.toNat) % 256 := UInt8.toNat_add _ kk
  rw [← added]
  exact fetches.computes (@decode_encode (.addByte x kk) trivial) rfl rfl

/-! ## Sums and what undoes them -/

/-- With the carry in front of it, a sum is exact. -/
theorem ComputesWithFlag.sum_eq {a b : Nat} (a_lt : a < 256) (b_lt : b < 256)
    (noFlag : x ≠ flagRegister)
    (computes : ComputesWithFlag machine instruction x ((a + b) % 256)
      (if 255 < a + b then 1 else 0)) :
    256 * (machine.step.state.register flagRegister).toNat +
        (machine.step.state.register x).toNat = a + b := by
  rw [computes.flag_eq, computes.value_eq noFlag]
  split
  · omega
  · omega

/-- Subtracting what was added gives the first operand back. -/
theorem Fetches.difference_of_sum {a : Nat} (a_lt : a < 256)
    (noFlag : x ≠ flagRegister)
    (sum : (machine.register x).toNat =
      (a + (machine.register y).toNat) % 256)
    (fetches : machine.Fetches (wordOf 0x8 x y 0x5)) :
    (machine.step.state.register x).toNat = a ∧
      ((machine.step.state.register flagRegister).toNat = 1 ↔
        (machine.register y).toNat <
          (a + (machine.register y).toNat) % 256) := by
  have bound := (machine.register y).toNat_lt
  have computes : ComputesWithFlag machine (.combine .subtract x y) x _ _ :=
    fetches.computes_combine_flag rfl
  constructor
  · rw [computes.value_eq noFlag, Arithmetic.number, sum]
    omega
  · rw [computes.flag_eq, sum]
    split
    case isTrue greater => exact iff_of_true rfl greater
    case isFalse notGreater => exact iff_of_false Nat.zero_ne_one notGreater

/--
Arithmetic instructions give the results and the flags of the natural numbers
in their registers, whichever registers they are; nothing but these registers
changes, and the bitwise ones leave the flag alone.  A sum and its carry are
exact, and subtracting the second operand again restores the first one, as long
as neither of the two was changed.
-/
theorem arithmetic_exact (machine : Machine) (x y : Nibble) :
    let a := (machine.register x).toNat
    let b := (machine.register y).toNat
    let after := machine.step.state
    (machine.Fetches (wordOf 0x8 x y 0x4) →
      ComputesWithFlag machine (.combine .add x y) x ((a + b) % 256)
        (if 255 < a + b then 1 else 0)) ∧
    (machine.Fetches (wordOf 0x8 x y 0x5) →
      ComputesWithFlag machine (.combine .subtract x y) x
        ((256 + a - b) % 256) (if b < a then 1 else 0)) ∧
    (machine.Fetches (wordOf 0x8 x y 0x7) →
      ComputesWithFlag machine (.combine .subtractReverse x y) x
        ((256 + b - a) % 256) (if a < b then 1 else 0)) ∧
    (machine.Fetches (wordOf 0x8 x y 0x6) →
      ComputesWithFlag machine (.shiftRight x) x (a / 2) (a % 2)) ∧
    (machine.Fetches (wordOf 0x8 x y 0xE) →
      ComputesWithFlag machine (.shiftLeft x) x (2 * a % 256)
        (if 128 ≤ a then 1 else 0)) ∧
    (∀ kk, machine.Fetches (wordOfByte 0x7 x kk) →
      Computes machine (.addByte x kk) x ((a + kk.toNat) % 256)) ∧
    (machine.Fetches (wordOf 0x8 x y 0x1) →
      Computes machine (.combine .or x y) x (a ||| b)) ∧
    (machine.Fetches (wordOf 0x8 x y 0x2) →
      Computes machine (.combine .and x y) x (a &&& b)) ∧
    (machine.Fetches (wordOf 0x8 x y 0x3) →
      Computes machine (.combine .xor x y) x (a ^^^ b)) ∧
    (machine.Fetches (wordOf 0x8 x y 0x4) →
      x ≠ y → x ≠ flagRegister → y ≠ flagRegister →
      256 * (after.register flagRegister).toNat +
          (after.register x).toNat = a + b ∧
      ∀ later : Machine,
        later.register x = after.register x →
        later.register y = after.register y →
        later.Fetches (wordOf 0x8 x y 0x5) →
          later.step.state.register x = machine.register x ∧
          ((later.step.state.register flagRegister).toNat = 1 ↔
            b < (a + b) % 256)) := by
  intro a b after
  have a_lt : a < 256 := (machine.register x).toNat_lt
  have b_lt : b < 256 := (machine.register y).toNat_lt
  refine ⟨fun fetches => fetches.computes_combine_flag rfl,
    fun fetches => fetches.computes_combine_flag rfl,
    fun fetches => fetches.computes_combine_flag rfl,
    fun fetches => fetches.computes_shiftRight,
    fun fetches => fetches.computes_shiftLeft,
    fun _ fetches => fetches.computes_addByte,
    fun fetches => fetches.computes_combine fun _ _ => rfl,
    fun fetches => fetches.computes_combine fun _ _ => rfl,
    fun fetches => fetches.computes_combine fun _ _ => rfl, ?_⟩
  intro fetches different noFlag operand
  have computes : ComputesWithFlag machine (.combine .add x y) x
      ((a + b) % 256) (if 255 < a + b then 1 else 0) :=
    fetches.computes_combine_flag rfl
  refine ⟨computes.sum_eq a_lt b_lt noFlag, ?_⟩
  intro later first second subtracting
  have unchanged : later.register y = machine.register y :=
    second.trans (computes.kept y different.symm operand)
  have sum : (later.register x).toNat = (a + b) % 256 := by
    rw [first]
    exact computes.value_eq noFlag
  have back := subtracting.difference_of_sum a_lt noFlag
    (by rw [sum, unchanged])
  rw [unchanged] at back
  exact ⟨UInt8.toNat.inj back.1, back.2⟩

/-- A sum that is more than a byte, and its undoing. -/
def addingProgram : List UInt8 :=
  [0x81, 0x24, 0x81, 0x25]

def addingMachine : Machine :=
  ((loaded (.ofSeed 0) addingProgram).setRegister 1 200).setRegister 2 100

theorem addingMachine_exact :
    let after := addingMachine.step.state
    after.register 1 = 44 ∧ after.register flagRegister = 1 ∧
      after.step.state.register 1 = 200 ∧
      after.step.state.register flagRegister ≠ 1 := by
  intro after
  have fits : addingProgram.length ≤ Memory.programCapacity := by decide
  have placed : addingMachine.memory =
      (loaded (.ofSeed 0) addingProgram).memory := rfl
  have exact := arithmetic_exact addingMachine 1 2
  have adds : addingMachine.Fetches (wordOf 0x8 1 2 0x4) :=
    ⟨rfl, rfl, by decide,
      nextWord_of_loaded addingProgram 0 fits (by decide) placed rfl⟩
  have computes := exact.1 adds
  have rest : after = _ := computes.rest
  have subtracts : after.Fetches (wordOf 0x8 1 2 0x5) := by
    rw [rest]
    exact ⟨rfl, rfl, by decide,
      nextWord_of_loaded addingProgram 2 fits (by decide) placed rfl⟩
  rcases exact with ⟨-, -, -, -, -, -, -, -, -, sum⟩
  rcases sum adds (by decide) (by decide) (by decide) with ⟨-, restores⟩
  rcases restores after rfl rfl subtracts with ⟨restored, flagged⟩
  refine ⟨?_, ?_, restored, ?_⟩
  · exact UInt8.toNat.inj (computes.value_eq (by decide))
  · exact UInt8.toNat.inj computes.flag_eq
  · intro set
    rw [set] at flagged
    exact absurd (flagged.mp rfl) (by decide)

end Machine

end Chip8
