import Chip8.Proofs.Machine.Pausing

/-!
# Calls and returns

An instruction 2nnn that is executed puts the address behind it on the stack,
and an instruction 00EE that is executed goes back to the address on top.
Nothing else that is done to a machine touches the stack: `StackCase` lists
these three ways, and every operation goes one of them.

Two things follow by induction on runs.  The stack is as deep as there were
more calls than returns, so the seventeenth nested call and a return without a
call fail.  And what lies on the stack stays there until the run goes below it,
so a return leads behind the call that it belongs to, whatever happened in
between.
-/

namespace Chip8

namespace Machine

open Instruction

/-- Whether a step executed an instruction 2nnn. -/
def isCall : Except Error Outcome → Bool
  | .ok (.executed (.call _)) => true
  | _ => false

/-- Whether a step executed an instruction 00EE. -/
def isReturn : Except Error Outcome → Bool
  | .ok (.executed .leave) => true
  | _ => false

/-- How many calls a run executes. -/
def calls (machine : Machine) (operations : List Operation) : Nat :=
  (machine.outcomes operations).countP isCall

/-- How many returns a run executes. -/
def returns (machine : Machine) (operations : List Operation) : Nat :=
  (machine.outcomes operations).countP isReturn

/-- The next step fetches this word. -/
structure Fetches (machine : Machine) (word : UInt16) : Prop where
  running : machine.paused = false
  idle : machine.keyWait = none
  inside : machine.programCounter.toNat + 2 ≤ 4096
  word_eq : machine.nextWord = word

/-- The stack stays deeper than a bound all through a run. -/
def StaysAbove (depth : Nat) (machine : Machine)
    (operations : List Operation) : Prop :=
  ∀ earlier, earlier <+: operations →
    depth < (machine.after earlier).stack.length

/-- The ways in which an operation can treat the stack. -/
inductive StackCase (machine : Machine) (operation : Operation) : Prop where
  /-- Neither a call nor a return is executed. -/
  | kept
      (noCall : (operation.results machine).countP isCall = 0)
      (noReturn : (operation.results machine).countP isReturn = 0)
      (stack : (operation.perform machine).state.stack = machine.stack)
  /-- A call is executed. -/
  | called (nnn : Address)
      (step : operation = .step)
      (result : machine.step.result = .ok (.executed (.call nnn)))
      (stack : machine.step.state.stack =
        (machine.programCounter + 2) :: machine.stack)
  /-- A return is executed. -/
  | returned (caller : UInt16)
      (step : operation = .step)
      (result : machine.step.result = .ok (.executed .leave))
      (stack : machine.stack = caller :: machine.step.state.stack)
      (programCounter : machine.step.state.programCounter = caller)

variable {machine : Machine}

/-! ## One operation -/

/-- A return that can be executed has a caller. -/
theorem exists_caller {pc : UInt16} (sound : machine.fault? pc .leave = none) :
    ∃ caller rest, machine.stack = caller :: rest := by
  cases callers : machine.stack with
  | nil => simp [fault?, callers] at sound
  | cons caller rest => exact ⟨caller, rest, rfl⟩

/-- A step that executes neither a call nor a return keeps the stack. -/
theorem stackCase_of_step (same : machine.step.state.stack = machine.stack)
    (noCall : isCall machine.step.result = false)
    (noReturn : isReturn machine.step.result = false) :
    StackCase machine .step := by
  refine .kept ?_ ?_ same
  · simp [Operation.results, noCall]
  · simp [Operation.results, noReturn]

theorem stackCase_step (machine : Machine) : StackCase machine .step := by
  cases machine.stepCase with
  | paused halted made =>
      apply stackCase_of_step <;> rw [made] <;> rfl
  | waiting x running wait noKey made =>
      apply stackCase_of_step <;> rw [made] <;> rfl
  | received x key running wait lowest made =>
      apply stackCase_of_step <;> rw [made] <;> rfl
  | unfetched running idle outside made =>
      apply stackCase_of_step <;> rw [made] <;> rfl
  | failed error running idle inside fault made =>
      apply stackCase_of_step <;> rw [made] <;> rfl
  | executed running idle inside sound made =>
      have stack := effect_stack machine.advanced machine.nextInstruction
      have counter :=
        effect_programCounter machine.advanced machine.nextInstruction
      cases instruction : machine.nextInstruction with
      | call nnn =>
          rw [instruction] at made stack
          exact .called nnn rfl (by rw [made]) (by rw [made]; exact stack)
      | leave =>
          rw [instruction] at made stack counter sound
          obtain ⟨caller, rest, callers⟩ := exists_caller sound
          have before : machine.advanced.stack = caller :: rest := callers
          simp only [before, List.tail_cons, List.headD_cons] at stack counter
          refine .returned caller rfl (by rw [made]) ?_ ?_
          · rw [made, stack]
            exact callers
          · rw [made]
            exact counter
      | _ =>
          rw [instruction] at made stack
          apply stackCase_of_step
          · rw [made]
            exact stack
          · rw [made]
            rfl
          · rw [made]
            rfl

theorem stackCase (machine : Machine) (operation : Operation) :
    StackCase machine operation := by
  cases operation with
  | step => exact stackCase_step machine
  | tick =>
      refine .kept rfl rfl ?_
      change machine.tick.stack = machine.stack
      obtain ⟨delay, sound, ticked⟩ := machine.tick_eq
      rw [ticked]
  | _ => exact .kept rfl rfl rfl

/-- An operation changes the depth by its calls and returns. -/
theorem depth_perform (machine : Machine) (operation : Operation) :
    (operation.perform machine).state.stack.length +
        (operation.results machine).countP isReturn =
      machine.stack.length + (operation.results machine).countP isCall := by
  cases machine.stackCase operation with
  | kept noCall noReturn stack => rw [noCall, noReturn, stack]
  | called nnn step result stack =>
      subst step
      change machine.step.state.stack.length + _ = _
      simp [Operation.results, result, stack, isCall, isReturn]
  | returned caller step result stack programCounter =>
      subst step
      change machine.step.state.stack.length + _ = _
      simp [Operation.results, result, stack, isCall, isReturn]

/-- What lies on the stack stays there if it is not reached. -/
theorem suffix_perform {saved : List UInt16}
    (beneath : saved <:+ machine.stack) {operation : Operation}
    (above : saved.length ≤
      (operation.perform machine).state.stack.length) :
    saved <:+ (operation.perform machine).state.stack := by
  cases machine.stackCase operation with
  | kept noCall noReturn stack =>
      rw [stack]
      exact beneath
  | called nnn step result stack =>
      subst step
      change saved <:+ machine.step.state.stack
      rw [stack]
      exact beneath.trans (List.suffix_cons _ _)
  | returned caller step result stack programCounter =>
      subst step
      rw [stack, List.suffix_cons_iff] at beneath
      rcases beneath with whole | rest
      · rw [whole] at above
        exact absurd above (Nat.not_succ_le_self _)
      · exact rest

/--
The operation that takes an address from the stack is a step that returns to
it and leaves what lies below.
-/
theorem returned_of_suffix {address : UInt16} {saved : List UInt16}
    (beneath : address :: saved <:+ machine.stack) {operation : Operation}
    (back : (operation.perform machine).state.stack.length ≤ saved.length) :
    operation = .step ∧
      machine.step.result = .ok (.executed .leave) ∧
      machine.step.state.programCounter = address ∧
      machine.step.state.stack = saved := by
  have deep := beneath.length_le
  rw [List.length_cons] at deep
  cases machine.stackCase operation with
  | kept noCall noReturn stack =>
      rw [stack] at back
      exact absurd (Nat.le_trans deep back) (Nat.not_succ_le_self _)
  | called nnn step result stack =>
      subst step
      change machine.step.state.stack.length ≤ saved.length at back
      rw [stack, List.length_cons] at back
      omega
  | returned caller step result stack programCounter =>
      subst step
      change machine.step.state.stack.length ≤ saved.length at back
      rw [stack] at beneath
      have whole : address :: saved = caller :: machine.step.state.stack := by
        apply beneath.eq_of_length_le
        rw [List.length_cons, List.length_cons]
        exact Nat.succ_le_succ back
      cases whole
      exact ⟨rfl, result, programCounter, rfl⟩

/-! ## Runs -/

/-- A run changes the depth by its calls and returns. -/
theorem depth_after (machine : Machine) (operations : List Operation) :
    (machine.after operations).stack.length + machine.returns operations =
      machine.stack.length + machine.calls operations := by
  induction operations generalizing machine with
  | nil => rfl
  | cons operation rest step =>
      have here := machine.depth_perform operation
      have further := step (operation.perform machine).state
      simp only [calls, returns] at further ⊢
      rw [after_cons, outcomes_cons, List.countP_append, List.countP_append]
      omega

theorem Built.stack_eq (built : Built machine) : machine.stack = [] := by
  obtain ⟨random, memory, rfl⟩ := built.eq_powerUp_with
  rfl

theorem staysAbove_cons {depth : Nat} {operation : Operation}
    {rest : List Operation}
    (stays : StaysAbove depth machine (operation :: rest)) :
    StaysAbove depth (operation.perform machine).state rest := by
  intro earlier begins
  exact stays (operation :: earlier) (List.cons_prefix_cons.mpr ⟨rfl, begins⟩)

/-- An address that a run stays above is still there with what lies below. -/
theorem suffix_after {address : UInt16} {saved : List UInt16}
    (beneath : address :: saved <:+ machine.stack)
    {operations : List Operation}
    (stays : StaysAbove saved.length machine operations) :
    address :: saved <:+ (machine.after operations).stack := by
  induction operations generalizing machine with
  | nil => exact beneath
  | cons operation rest step =>
      have further := staysAbove_cons stays
      have above := further [] List.nil_prefix
      exact step (suffix_perform beneath above) further

/-! ## Steps that call or return -/

/-- The instruction of the word that is fetched. -/
theorem Fetches.nextInstruction_eq {instruction : Instruction}
    (fetches : machine.Fetches instruction.encode)
    (wellFormed : instruction.WellFormed)
    (exact : instruction.isShift = false) :
    machine.nextInstruction = instruction :=
  (nextInstruction_eq_iff instruction wellFormed exact).mpr fetches.word_eq

/-- A word that is fetched fails if its instruction cannot be executed. -/
theorem Fetches.step_of_fault {word : UInt16}
    (fetches : machine.Fetches word) {error : Error}
    (fault : machine.fault? machine.programCounter
      machine.nextInstruction = some error) :
    machine.step.result = .error error ∧
      machine.step.state.stack = machine.stack := by
  rw [step_of_idle fetches.running fetches.idle,
    runWord_of_fault fetches.inside fault]
  exact ⟨rfl, rfl⟩

/-- A call above sixteen callers fails. -/
theorem Fetches.call_overflows {nnn : Address}
    (fetches : machine.Fetches (wordOfAddress 0x2 nnn))
    (full : machine.stack.length = 16) :
    machine.step.result = .error (.stackOverflow machine.programCounter) ∧
      machine.step.state.stack = machine.stack := by
  have decoded : machine.nextInstruction = .call nnn :=
    fetches.nextInstruction_eq trivial rfl
  apply fetches.step_of_fault
  rw [decoded, fault?, full]
  rfl

/-- A return without a caller fails. -/
theorem Fetches.return_underflows (fetches : machine.Fetches 0x00EE)
    (empty : machine.stack = []) :
    machine.step.result = .error (.stackUnderflow machine.programCounter) ∧
      machine.step.state.stack = machine.stack := by
  have decoded : machine.nextInstruction = .leave :=
    fetches.nextInstruction_eq trivial rfl
  apply fetches.step_of_fault
  rw [decoded, fault?, empty]
  rfl

/-- A word that is fetched is executed if its instruction can be. -/
theorem Fetches.step_of_sound {word : UInt16}
    (fetches : machine.Fetches word)
    (sound : machine.fault? machine.programCounter
      machine.nextInstruction = none) :
    machine.step.result = .ok (.executed machine.nextInstruction) ∧
      machine.step.state =
        machine.advanced.effect machine.nextInstruction := by
  rw [Machine.step_of_sound fetches.running fetches.idle fetches.inside rfl
    sound]
  exact ⟨rfl, rfl⟩

/-- A call below the limit puts the address behind it on the stack. -/
theorem Fetches.call_pushes {nnn : Address}
    (fetches : machine.Fetches (wordOfAddress 0x2 nnn))
    (room : machine.stack.length < 16) :
    machine.step.result = .ok (.executed (.call nnn)) ∧
      machine.step.state = machine.advanced.effect (.call nnn) := by
  have decoded : machine.nextInstruction = .call nnn :=
    fetches.nextInstruction_eq trivial rfl
  rw [← decoded]
  apply fetches.step_of_sound
  rw [decoded]
  exact if_pos room

/-- A return goes to the address on top of the stack and takes it away. -/
theorem Fetches.return_pops (fetches : machine.Fetches 0x00EE)
    {caller : UInt16} {rest : List UInt16}
    (callers : machine.stack = caller :: rest) :
    machine.step.result = .ok (.executed .leave) ∧
      machine.step.state.programCounter = caller ∧
      machine.step.state.stack = rest := by
  have decoded : machine.nextInstruction = .leave :=
    fetches.nextInstruction_eq trivial rfl
  have sound : machine.fault? machine.programCounter
      machine.nextInstruction = none := by
    rw [decoded, fault?, callers]
    rfl
  obtain ⟨result, state⟩ := fetches.step_of_sound sound
  have before : machine.advanced.stack = caller :: rest := callers
  rw [decoded] at result state
  rw [state, effect_programCounter, effect_stack, before]
  exact ⟨result, rfl, rfl⟩

/--
After any run of a machine that was built, the stack is as deep as there were
more calls than returns.  A call above sixteen callers and a return without a
caller fail and keep the stack.  Any other call puts the address behind it on
the stack, where it stays as long as the run stays above it; the operation that
takes it from there is a return to this address, and it leaves the stack as it
was before the call.
-/
theorem return_addresses_intact {start : Machine} (built : Built start)
    (operations : List Operation) :
    let machine := start.after operations
    let pc := machine.programCounter
    machine.stack.length + start.returns operations =
        start.calls operations ∧
      (∀ nnn, machine.Fetches (wordOfAddress 0x2 nnn) →
        (start.calls operations = start.returns operations + 16 →
          machine.step.result = .error (.stackOverflow pc) ∧
            machine.step.state.stack = machine.stack) ∧
        (machine.stack.length < 16 →
          machine.step.result = .ok (.executed (.call nnn)) ∧
            (pc + 2).toNat = pc.toNat + 2 ∧
            ∀ later,
              StaysAbove machine.stack.length machine.step.state later →
              let deeper := machine.step.state.after later
              (pc + 2) :: machine.stack <:+ deeper.stack ∧
                (∀ operation,
                  (Operation.perform deeper operation).state.stack.length ≤
                      machine.stack.length →
                    operation = .step ∧
                      deeper.step.result = .ok (.executed .leave) ∧
                      deeper.step.state.programCounter = pc + 2 ∧
                      deeper.step.state.stack = machine.stack) ∧
                (deeper.Fetches 0x00EE →
                  deeper.stack.length = machine.stack.length + 1 →
                    deeper.step.result = .ok (.executed .leave) ∧
                      deeper.step.state.programCounter = pc + 2 ∧
                      deeper.step.state.stack = machine.stack))) ∧
      (machine.Fetches 0x00EE →
        start.calls operations = start.returns operations →
        machine.step.result = .error (.stackUnderflow pc) ∧
          machine.step.state.stack = machine.stack) := by
  intro machine pc
  have depth : machine.stack.length + start.returns operations =
      start.calls operations := by
    have changed := start.depth_after operations
    rw [built.stack_eq, List.length_nil, Nat.zero_add] at changed
    exact changed
  refine ⟨depth, ?_, ?_⟩
  · intro nnn fetches
    constructor
    · intro nested
      have full : machine.stack.length = 16 := by omega
      exact fetches.call_overflows full
    · intro room
      obtain ⟨result, state⟩ := fetches.call_pushes room
      refine ⟨result, toNat_advanced fetches.inside, ?_⟩
      intro later stays deeper
      have pushed : (pc + 2) :: machine.stack <:+
          machine.step.state.stack := by
        rw [state]
        exact List.suffix_rfl
      have beneath := suffix_after pushed stays
      refine ⟨beneath, fun operation back => returned_of_suffix beneath back,
        ?_⟩
      intro leaving last
      have whole := beneath.eq_of_length_le (Nat.le_of_eq last)
      exact leaving.return_pops whole.symm
  · intro fetches unmatched
    have empty : machine.stack = [] := by
      apply List.eq_nil_of_length_eq_zero
      omega
    exact fetches.return_underflows empty

/-- A machine whose program calls a routine that returns at once. -/
def callingMachine : Machine :=
  { powerUp (.ofSeed 0) with
    memory := Memory.withFont.overwrite Memory.programStart
      [0x22, 0x04, 0x12, 0x02, 0x00, 0xEE] }

/-- The routine returns behind its call. -/
theorem callingMachine_returns :
    Built callingMachine ∧
      callingMachine.step.result = .ok (.executed (.call 0x204)) ∧
      callingMachine.step.state.step.result = .ok (.executed .leave) ∧
      callingMachine.step.state.step.state.programCounter = 0x202 ∧
      callingMachine.step.state.step.state.stack = [] := by
  have loaded : Machine.withProgram (.ofSeed 0)
      [0x22, 0x04, 0x12, 0x02, 0x00, 0xEE] = .ok callingMachine := rfl
  have built : Built callingMachine := .withProgram loaded
  have fetches : callingMachine.Fetches (wordOfAddress 0x2 0x204) :=
    ⟨rfl, rfl, by decide, by decide +kernel⟩
  have called := (fetches.call_pushes (by decide)).2
  obtain ⟨-, calling, -⟩ := return_addresses_intact built []
  obtain ⟨result, -, returning⟩ := (calling 0x204 fetches).2 (by decide)
  have stays : StaysAbove 0 callingMachine.step.state [] := by
    intro earlier begins
    rw [List.prefix_nil.mp begins, after_nil, called]
    decide
  have leaving : callingMachine.step.state.Fetches 0x00EE := by
    rw [called]
    exact ⟨rfl, rfl, by decide, by decide +kernel⟩
  have last : callingMachine.step.state.stack.length = 1 := by
    rw [called]
    rfl
  obtain ⟨-, -, back⟩ := returning [] stays
  simp only [after_nil] at back
  exact ⟨built, result, back leaving last⟩

end Machine

end Chip8
