import Chip8.Device.Event

/-!
# Scripted keys

A script says for each scan which keys are held and which command is given.
When it is used up, all keys are released and no command is given.
-/

namespace Chip8

/-- One scan of a script. -/
structure ScriptedScan where
  /-- The codes of the keys that are held; others than 0 to 15 are ignored. -/
  codes : List UInt8
  /-- The command that is given. -/
  command : Option Command
  deriving DecidableEq

/-- A script. -/
structure KeyScript where
  /-- The scans to come. -/
  scans : List ScriptedScan
  deriving DecidableEq

namespace KeyScript

/-- Play one scan, whatever the keypad was before. -/
def scan (script : KeyScript) (_keypad : Keypad) :
    Activity Emission IoError (KeyScript × Keypad) (Option Command) :=
  match script.scans with
  | [] => .done none (script, .released)
  | now :: later => .done now.command (⟨later⟩, .ofCodes now.codes)

instance : InputDevice KeyScript where
  scan := scan

end KeyScript

end Chip8
