import Chip8.Proofs.Keypad
import Chip8.Proofs.Machine.Bounds
import Chip8.Proofs.Machine.Calls

/-!
# Where control goes

A step moves the program counter past the word that it fetches, and the
instruction may then move it again.  `LeadsTo` says where the two together
lead, in terms of the machine before the step: a jump to its target, a return
to the address that it takes from the stack, a skip one word further than other
instructions if what it asks for is met.

The program counter and the return addresses of a machine that was built are
even.  Only a jump or a call can change that, for it may go to an odd address;
in a run without such a step they stay even, and so a fetch can only fail at the
end of memory and one word behind it.
-/

namespace Chip8

/-- What a skip asks of the registers and of the keys that are down. -/
def Condition.Met (machine : Machine) : Condition → Prop
  | .equalsByte x kk => machine.register x = kk
  | .differsFromByte x kk => machine.register x ≠ kk
  | .equalsRegister x y => machine.register x = machine.register y
  | .differsFromRegister x y => machine.register x ≠ machine.register y
  | .keyDown x => ∃ key : Nibble,
      machine.register x = key.toByte ∧ machine.keypad.isPressed key.toByte
  | .keyUp x => ¬ ∃ key : Nibble,
      machine.register x = key.toByte ∧ machine.keypad.isPressed key.toByte

/-- Whether the instruction goes to an address that it computes. -/
def Instruction.isJump : Instruction → Bool
  | .jump _ | .call _ | .jumpOffset _ => true
  | _ => false

namespace Machine

/-- Where an instruction leads that was executed between two machines. -/
def LeadsTo (before after : Machine) : Instruction → Prop
  | .jump nnn | .call nnn => after.programCounter.toNat = nnn.val
  | .leave => before.stack = after.programCounter :: after.stack
  | .jumpOffset nnn => after.programCounter.toNat =
      (nnn.val + (before.register 0).toNat) % 4096
  | .skipIf condition =>
      (condition.Met before →
        after.programCounter.toNat = before.programCounter.toNat + 4) ∧
      (¬ condition.Met before →
        after.programCounter.toNat = before.programCounter.toNat + 2)
  | _ => after.programCounter.toNat = before.programCounter.toNat + 2

/-- The program counter and all return addresses are even. -/
structure Aligned (machine : Machine) : Prop where
  programCounter : 2 ∣ machine.programCounter.toNat
  stack : ∀ caller ∈ machine.stack, 2 ∣ caller.toNat

/-- The step of a machine executes 1nnn, 2nnn or Bnnn to an odd address. -/
def JumpsToOdd (machine : Machine) : Prop :=
  ∃ instruction, machine.step.result = .ok (.executed instruction) ∧
    instruction.isJump ∧ ¬ 2 ∣ machine.step.state.programCounter.toNat

variable {machine : Machine} {instruction : Instruction}
  {condition : Condition}

/-! ## Skips -/

/-- Only the code of a key that is down is down. -/
theorem isPressed_register_iff {x : Nibble} :
    machine.keypad.isPressed (machine.register x) = true ↔
      ∃ key : Nibble, machine.register x = key.toByte ∧
        machine.keypad.isPressed key.toByte := by
  constructor
  · intro pressed
    rcases Keypad.exists_key_of_isPressed pressed with ⟨key, same⟩
    rw [← same] at pressed
    exact ⟨key, same.symm, pressed⟩
  · rintro ⟨key, same, pressed⟩
    rw [same]
    exact pressed

theorem holds_iff_met :
    condition.holds machine = true ↔ condition.Met machine := by
  cases condition with
  | equalsByte x kk => exact beq_iff_eq
  | differsFromByte x kk => exact bne_iff_ne
  | equalsRegister x y => exact beq_iff_eq
  | differsFromRegister x y => exact bne_iff_ne
  | keyDown x => exact isPressed_register_iff
  | keyUp x =>
      rw [Condition.holds, Bool.not_eq_true', ← Bool.not_eq_true]
      exact not_congr isPressed_register_iff

theorem met_opposite_iff :
    condition.opposite.Met machine ↔ ¬ condition.Met machine := by
  rw [← holds_iff_met, ← holds_iff_met, Condition.holds_opposite,
    Bool.not_eq_true', Bool.not_eq_true]

/-- A register above 15 is the code of no key. -/
theorem met_keyUp_of_large {x : Nibble}
    (large : 15 < (machine.register x).toNat) :
    (Condition.keyUp x).Met machine := by
  rintro ⟨key, same, -⟩
  rw [same, Nibble.toNat_toByte] at large
  exact absurd key.val_lt (Nat.not_lt_of_ge large)

/-! ## One step -/

/-- Every step that executes an instruction goes where it leads. -/
theorem leadsTo_of_executed
    (executed : machine.step.result = .ok (.executed instruction)) :
    LeadsTo machine machine.step.state instruction := by
  rcases step_of_executed executed with ⟨inside, -, sound, effected⟩
  have past := toNat_advanced inside
  have counter := effect_programCounter machine.advanced instruction
  have stack := effect_stack machine.advanced instruction
  rw [← effected] at counter stack
  cases instruction with
  | jump nnn | call nnn =>
      show machine.step.state.programCounter.toNat = nnn.val
      rw [counter]
      exact toNat_address nnn
  | jumpOffset nnn =>
      show machine.step.state.programCounter.toNat = _
      rw [counter]
      exact toNat_addressSum _ _
  | leave =>
      rcases exists_caller sound with ⟨caller, rest, callers⟩
      have before : machine.advanced.stack = caller :: rest := callers
      show machine.stack =
        machine.step.state.programCounter :: machine.step.state.stack
      rw [counter, stack, before]
      exact callers
  | skipIf condition =>
      have unmoved : condition.holds machine.advanced =
          condition.holds machine := by
        cases condition <;> rfl
      have skips : machine.step.state.programCounter =
          if condition.holds machine then
            machine.advanced.programCounter + 2
          else machine.advanced.programCounter := by
        rw [← unmoved]
        exact counter
      constructor
      · intro met
        rw [skips, if_pos (holds_iff_met.mpr met),
          toNat_add_two (past ▸ inside), past]
      · intro unmet
        rw [skips, if_neg (mt holds_iff_met.mp unmet), past]
  | _ =>
      show machine.step.state.programCounter.toNat = _
      rw [counter]
      exact past

/-- Of two opposite skips on the same registers and keys, one skips. -/
theorem opposite_skips {memory : Memory}
    (executed : machine.step.result = .ok (.executed (.skipIf condition)))
    (opposed : ({ machine with memory } : Machine).step.result =
      .ok (.executed (.skipIf condition.opposite))) :
    (machine.step.state.programCounter.toNat =
        machine.programCounter.toNat + 4 ∧
      ({ machine with memory } : Machine).step.state.programCounter.toNat =
        machine.programCounter.toNat + 2) ∨
    (machine.step.state.programCounter.toNat =
        machine.programCounter.toNat + 2 ∧
      ({ machine with memory } : Machine).step.state.programCounter.toNat =
        machine.programCounter.toNat + 4) := by
  have first := leadsTo_of_executed executed
  have second := leadsTo_of_executed opposed
  change (_ → _) ∧ (_ → _) at first second
  -- What is asked for does not depend on the memory.
  have alike : condition.opposite.Met { machine with memory } ↔
      condition.opposite.Met machine := by
    cases condition <;> exact Iff.rfl
  rw [alike, met_opposite_iff, Classical.not_not] at second
  by_cases met : condition.Met machine
  · exact .inl ⟨first.1 met, second.2 met⟩
  · exact .inr ⟨first.2 met, second.1 met⟩

/-! ## Alignment -/

theorem Built.aligned (built : Built machine) : Aligned machine := by
  rcases built.eq_powerUp_with with ⟨random, memory, rfl⟩
  constructor
  · show 2 ∣ 0x200
    decide
  · intro caller member
    cases member

/-- A machine with the same control state is aligned as well. -/
theorem Aligned.congr {other : Machine} (aligned : Aligned machine)
    (programCounter : other.programCounter = machine.programCounter)
    (stack : other.stack = machine.stack) : Aligned other := by
  constructor
  · rw [programCounter]
    exact aligned.programCounter
  · rw [stack]
    exact aligned.stack

theorem Aligned.advanced (aligned : Aligned machine)
    (inside : machine.programCounter.toNat + 2 ≤ Memory.size) :
    Aligned machine.advanced := by
  constructor
  · rw [toNat_advanced inside]
    exact Nat.dvd_add aligned.programCounter (Nat.dvd_refl 2)
  · exact aligned.stack

/-- Unless it jumps to an odd address, an instruction leads to an even one. -/
theorem Aligned.programCounter_executed (aligned : Aligned machine)
    (executed : machine.step.result = .ok (.executed instruction))
    (even : ¬ JumpsToOdd machine) :
    2 ∣ machine.step.state.programCounter.toNat := by
  have leads := leadsTo_of_executed executed
  have near := aligned.programCounter
  cases instruction with
  | jump nnn | call nnn | jumpOffset nnn =>
      refine Classical.byContradiction fun odd => ?_
      exact even ⟨_, executed, rfl, odd⟩
  | leave =>
      have callers : machine.stack = _ :: _ := leads
      exact aligned.stack _ (callers ▸ List.mem_cons_self)
  | skipIf condition =>
      by_cases met : condition.Met machine
      · rw [leads.1 met]
        omega
      · rw [leads.2 met]
        omega
  | _ =>
      rw [show machine.step.state.programCounter.toNat = _ from leads]
      omega

/-- The stack gets the address behind a call, and a return takes from it. -/
theorem Aligned.stack_step (aligned : Aligned machine) :
    ∀ caller ∈ machine.step.state.stack, 2 ∣ caller.toNat := by
  cases machine.stackCase_step with
  | kept noCall noReturn stack =>
      rw [show machine.step.state.stack = machine.stack from stack]
      exact aligned.stack
  | called nnn _ result stack =>
      rcases step_of_executed result with ⟨inside, -⟩
      rw [stack]
      intro caller member
      rcases List.mem_cons.mp member with rfl | earlier
      · exact (aligned.advanced inside).programCounter
      · exact aligned.stack caller earlier
  | returned caller _ result stack programCounter =>
      intro earlier member
      exact aligned.stack earlier (stack ▸ List.mem_cons_of_mem _ member)

theorem Aligned.step (aligned : Aligned machine)
    (even : ¬ JumpsToOdd machine) : Aligned machine.step.state := by
  refine ⟨?_, aligned.stack_step⟩
  cases machine.stepCase with
  | executed running idle inside sound made =>
      exact aligned.programCounter_executed (congrArg (·.result) made) even
  | failed error running idle inside fault made =>
      rw [made]
      exact (aligned.advanced inside).programCounter
  | paused halted made => rw [made]; exact aligned.programCounter
  | waiting x running wait noKey made =>
      rw [made]
      exact aligned.programCounter
  | received x key running wait lowest made =>
      rw [made]
      exact aligned.programCounter
  | unfetched running idle outside made =>
      rw [made]
      exact aligned.programCounter

/-- Without a jump to an odd address, every run stays aligned. -/
theorem Aligned.after (aligned : Aligned machine)
    {operations : List Operation}
    (even : NoStepWhere JumpsToOdd machine operations) :
    Aligned (machine.after operations) := by
  refine after_invariant_unless Aligned ?_ aligned even
  intro before operation holds allowed
  cases operation with
  | step => exact holds.step (allowed rfl)
  | tick =>
      exact holds.congr
        (tick_keeps Machine.programCounter (fun _ _ _ => rfl) before)
        (tick_keeps Machine.stack (fun _ _ _ => rfl) before)
  | _ => exact holds.congr rfl rfl

/-- A fetch of an aligned machine fails behind the last word of memory. -/
theorem Aligned.fetch_fails_iff (aligned : Aligned machine)
    (bounded : Bounded machine) :
    (∃ error, machine.memory.readWord machine.programCounter =
        .error error) ↔
      machine.programCounter.toNat = 0x1000 ∨
        machine.programCounter.toNat = 0x1002 := by
  have near := aligned.programCounter
  have high := bounded.programCounter_le
  rcases Nat.lt_or_ge Memory.size (machine.programCounter.toNat + 2) with
    outside | inside
  · rw [Memory.readWord_outside outside]
    have behind : 4096 < machine.programCounter.toNat + 2 := outside
    exact iff_of_true ⟨_, rfl⟩ (by omega)
  · rw [Memory.readWord_inside inside]
    have within : machine.programCounter.toNat + 2 ≤ 4096 := inside
    refine iff_of_false ?_ (by omega)
    rintro ⟨error, failed⟩
    cases failed

/--
A step that executes an instruction goes where the instruction leads.  Of two
opposite skips exactly one goes two words on, and it is ExA1 if the register
holds no key.  In a run of a machine that was built, in which every jump and
call goes to an even address, the program counter and the return addresses are
even all the way, so that fetches fail at 0x1000 and 0x1002 only.
-/
theorem control_goes :
    (∀ (machine : Machine) (instruction : Instruction),
      machine.step.result = .ok (.executed instruction) →
        LeadsTo machine machine.step.state instruction) ∧
    (∀ (machine : Machine) (memory : Memory) (condition : Condition),
      let pc := machine.programCounter.toNat
      let other : Machine := { machine with memory }
      machine.step.result = .ok (.executed (.skipIf condition)) →
      other.step.result = .ok (.executed (.skipIf condition.opposite)) →
        (machine.step.state.programCounter.toNat = pc + 4 ∧
          other.step.state.programCounter.toNat = pc + 2) ∨
        (machine.step.state.programCounter.toNat = pc + 2 ∧
          other.step.state.programCounter.toNat = pc + 4)) ∧
    (∀ (machine : Machine) (x : Nibble),
      let pc := machine.programCounter.toNat
      15 < (machine.register x).toNat →
        (machine.step.result = .ok (.executed (.skipIf (.keyUp x))) →
          machine.step.state.programCounter.toNat = pc + 4) ∧
        (machine.step.result = .ok (.executed (.skipIf (.keyDown x))) →
          machine.step.state.programCounter.toNat = pc + 2)) ∧
    ∀ (start : Machine) (operations : List Operation), Built start →
      NoStepWhere JumpsToOdd start operations →
      ∀ earlier, earlier <+: operations →
        let machine := start.after earlier
        Aligned machine ∧
          ((∃ error, machine.memory.readWord machine.programCounter =
              .error error) ↔
            machine.programCounter.toNat = 0x1000 ∨
              machine.programCounter.toNat = 0x1002) := by
  refine ⟨fun _ _ => leadsTo_of_executed, fun _ _ _ => opposite_skips, ?_, ?_⟩
  · intro machine x pc large
    have up : (Condition.keyUp x).Met machine := met_keyUp_of_large large
    constructor
    · intro executed
      exact (leadsTo_of_executed executed).1 up
    · intro executed
      exact (leadsTo_of_executed executed).2 up
  · rintro start operations built even earlier ⟨later, rfl⟩ machine
    have aligned : Aligned machine :=
      built.aligned.after (noStepWhere_of_append even)
    have bounded : Bounded machine :=
      Reachable.bounded ⟨start, earlier, built, rfl⟩
    exact ⟨aligned, aligned.fetch_fails_iff bounded⟩

/-- A machine with a single word, which is a skip. -/
def skippingMachine (high low : UInt8) : Machine :=
  loaded (.ofSeed 0) [high, low]

theorem skippingMachine_executes {high low : UInt8}
    (stored : machine.memory = (skippingMachine high low).memory)
    (running : machine.paused = false) (idle : machine.keyWait = none)
    (here : machine.programCounter = 0x200)
    (decoded : Instruction.decode
      (UInt16.ofNat (256 * high.toNat + low.toNat)) = .skipIf condition) :
    machine.step.result = .ok (.executed (.skipIf condition)) := by
  have next : machine.nextInstruction = .skipIf condition :=
    nextInstruction_of_loaded [high, low] 0 (Nat.le_add_left 2 3582)
      (Nat.lt_succ_self 1) stored (by rw [here]; rfl) decoded
  have inside : machine.programCounter.toNat + 2 ≤ Memory.size := by
    rw [here]
    decide
  exact congrArg (·.result) (step_of_sound running idle inside next rfl)

/-- A new machine skips by 3000 and not by 4000, and by E1A1 without a key. -/
theorem skippingMachine_goes :
    let machine := skippingMachine 0x30 0x00
    let other : Machine :=
      { machine with memory := (skippingMachine 0x40 0x00).memory }
    let keyless := (skippingMachine 0xE1 0xA1).setRegister 1 16
    machine.step.state.programCounter.toNat = 0x204 ∧
      other.step.state.programCounter.toNat = 0x202 ∧
      keyless.step.state.programCounter.toNat = 0x204 ∧
      Aligned machine.step.state := by
  intro machine other keyless
  rcases control_goes with ⟨leads, opposite, large, run⟩
  have executed : machine.step.result =
      .ok (.executed (.skipIf (.equalsByte 0 0))) :=
    skippingMachine_executes rfl rfl rfl rfl (by decide)
  have opposed : other.step.result =
      .ok (.executed (.skipIf (.differsFromByte 0 0))) :=
    skippingMachine_executes rfl rfl rfl rfl (by decide)
  have unkeyed : keyless.step.result =
      .ok (.executed (.skipIf (.keyUp 1))) :=
    skippingMachine_executes rfl rfl rfl rfl (by decide)
  have first : machine.step.state.programCounter.toNat = 0x204 :=
    (leads machine _ executed).1 rfl
  have built : Built machine :=
    .withProgram (withProgram_of_fits (.ofSeed 0) (Nat.le_add_left 2 3582))
  have even : NoStepWhere JumpsToOdd machine [.step] := by
    refine noStepWhere_cons.mpr ⟨fun _ => ?_, noStepWhere_nil _ _⟩
    rintro ⟨instruction, jumped, jumps, -⟩
    rw [executed] at jumped
    cases jumped
    cases jumps
  refine ⟨first, ?_, (large keyless 1 (by decide)).1 unkeyed, ?_⟩
  · rcases opposite machine other.memory (.equalsByte 0 0) executed opposed
      with ⟨-, second⟩ | ⟨unskipped, -⟩
    · exact second
    · rw [first] at unskipped
      cases unskipped
  · exact (run machine [.step] built even [.step] (List.prefix_refl _)).1

end Machine

end Chip8
