import Chip8.Machine.Step

/-!
# Operations

Everything that a host can do to a machine, as data, so that a whole run is a
list.  Only a step has an outcome or an error; the other operations always
succeed.
-/

namespace Chip8

/-- What a host does to a machine. -/
inductive Operation where
  /-- Make one step. -/
  | step
  /-- Count the timers down. -/
  | tick
  /-- Stop the machine. -/
  | pause
  /-- Let the machine go on. -/
  | resume
  /-- Press or release the key with this code. -/
  | setKey (code : UInt8) (pressed : Bool)
  /-- Release all keys. -/
  | releaseAll
  /-- Start the sequence of random bytes of this seed. -/
  | reseed (seed : UInt64)
  deriving DecidableEq

namespace Operation

/--
What an operation does to a machine; `none` is the outcome of all but steps.
-/
def perform (machine : Machine) :
    Operation → Activity LogRecord Error Machine (Option Outcome)
  | .step =>
      let made := machine.step
      ⟨made.result.map some, made.state, made.trace⟩
  | .tick => .done none machine.tick
  | .pause => machine.pause.andThen fun () => .done none
  | .resume => machine.resume.andThen fun () => .done none
  | .setKey code pressed =>
      .done none { machine with keypad := machine.keypad.setKey code pressed }
  | .releaseAll => .done none { machine with keypad := .released }
  | .reseed seed => .done none (machine.reseed seed)

end Operation

namespace Machine

/-- The machine after a run; an error does not end the run. -/
def after (machine : Machine) : List Operation → Machine
  | [] => machine
  | operation :: rest => ((operation.perform machine).state).after rest

/-- What the steps of a run gave, in order. -/
def outcomes (machine : Machine) :
    List Operation → List (Except Error Outcome)
  | [] => []
  | operation :: rest =>
      let made := operation.perform machine
      match made.result with
      | .ok none => made.state.outcomes rest
      | .ok (some outcome) => .ok outcome :: made.state.outcomes rest
      | .error error => .error error :: made.state.outcomes rest

/-- What a run tells, in order. -/
def records (machine : Machine) : List Operation → List LogRecord
  | [] => []
  | operation :: rest =>
      let made := operation.perform machine
      made.trace ++ made.state.records rest

end Machine

end Chip8
