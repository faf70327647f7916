import Chip8.Activity
import Chip8.Instruction.Code
import Chip8.Log
import Chip8.Machine.Execution

/-!
# Steps

A step of a paused machine does nothing.  A step of a machine that waits for a
key looks at the keypad and ends the wait if a key is down.  Any other step
fetches a word, moves the program counter past it and executes it.

A fetch that fails changes nothing; an instruction that fails changes nothing
but the program counter, which is then past it.
-/

namespace Chip8

/-- What a step did. -/
inductive Outcome where
  /-- An instruction was executed. -/
  | executed (instruction : Instruction)
  /-- The machine waits for a key and none is down. -/
  | waitingForKey
  /-- This key ended the wait. -/
  | keyReceived (key : Nibble)
  /-- The machine is paused. -/
  | paused
  deriving DecidableEq

namespace Outcome

/-- Whether the step changed anything. -/
def madeProgress : Outcome → Bool
  | .executed _ => true
  | .waitingForKey => false
  | .keyReceived _ => true
  | .paused => false

/-- An outcome written out. -/
def asRecord : Outcome → String
  | .executed instruction =>
      Text.Record.withPart "Executed" instruction.asRecord
  | .waitingForKey => "WaitingForKey"
  | .keyReceived key =>
      Text.Record.withPart "KeyReceived" (toString key.val)
  | .paused => "Paused"

end Outcome

/-- What executing an instruction tells besides that it was fetched. -/
def Instruction.records (pc : UInt16) : Instruction → List LogRecord
  | .machineCode nnn => [.machineCodeIgnored pc nnn]
  | .waitKey x => [.waiting pc x]
  | .unknown word => [.unknownWord pc word]
  | _ => []

namespace Machine

/-- The step of a machine that waits for a key into a register. -/
def pollKey (machine : Machine) (x : Nibble) :
    Activity LogRecord Error Machine Outcome :=
  match machine.keypad.lowestPressed? with
  | some key =>
      { result := .ok (.keyReceived key)
        state := { machine.setRegister x key.toByte with keyWait := none }
        trace := [.released key x] }
  | none => .done .waitingForKey machine

/-- The step of a machine that runs. -/
def runWord (machine : Machine) : Activity LogRecord Error Machine Outcome :=
  let pc := machine.programCounter
  match machine.memory.readWord pc with
  | .error error => ⟨.error error, machine, []⟩
  | .ok word =>
      let instruction := Instruction.decode word
      let advanced := { machine with programCounter := pc + 2 }
      let trace := .fetched pc word instruction :: instruction.records pc
      match advanced.execute pc instruction with
      | .error error => ⟨.error error, advanced, trace⟩
      | .ok after => ⟨.ok (.executed instruction), after, trace⟩

/-- One step. -/
def step (machine : Machine) : Activity LogRecord Error Machine Outcome :=
  if machine.paused then .done .paused machine
  else
    match machine.keyWait with
    | some x => machine.pollKey x
    | none => machine.runWord

/--
Steps until `limit` are made, one fails or one makes no progress, as a host
makes them during one frame.
-/
def stepUpTo (machine : Machine) :
    (limit : Nat) → Activity LogRecord Error Machine Unit
  | 0 => .done () machine
  | limit + 1 =>
      machine.step.andThen fun outcome machine =>
        if outcome.madeProgress then machine.stepUpTo limit
        else .done () machine

/-- Stop the machine until it is resumed; a wait for a key goes on. -/
def pause (machine : Machine) : Activity LogRecord Error Machine Unit :=
  .emit [.paused machine.programCounter] { machine with paused := true }

/-- Let a paused machine go on. -/
def resume (machine : Machine) : Activity LogRecord Error Machine Unit :=
  .emit [.resumed machine.programCounter] { machine with paused := false }

end Machine

end Chip8
