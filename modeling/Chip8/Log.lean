import Chip8.Error
import Chip8.Instruction.Text

/-!
# The log

Everything worth telling is a record of one of five levels.  Whoever reads the
log chooses a level and sees the records of that level and of the more severe
ones.
-/

namespace Chip8

open Text

/-- How severe a record is. -/
inductive LogLevel where
  /-- Something failed. -/
  | error
  /-- Something is not as it should be. -/
  | warn
  /-- What is going on as a whole. -/
  | info
  /-- What is going on in detail. -/
  | debug
  /-- Every instruction. -/
  | trace
  deriving DecidableEq

namespace LogLevel

/-- The levels by number, the most severe first. -/
def rank : LogLevel → Nat
  | .error => 1
  | .warn => 2
  | .info => 3
  | .debug => 4
  | .trace => 5

/-- The name of a level as it stands before a record. -/
def name : LogLevel → String
  | .error => "ERROR"
  | .warn => "WARN"
  | .info => "INFO"
  | .debug => "DEBUG"
  | .trace => "TRACE"

/-- Whether a reader who chose `threshold` sees a level. -/
def visibleAt (threshold level : LogLevel) : Bool :=
  level.rank ≤ threshold.rank

end LogLevel

/-- Something worth telling. -/
inductive LogRecord where
  /-- A program of this many bytes was loaded. -/
  | loaded (size : Nat)
  /-- A program was loaded from a reader. -/
  | loadedFromReader
  /-- A word was fetched and is about to be executed. -/
  | fetched (pc word : UInt16) (instruction : Instruction)
  /-- A call to machine code was ignored. -/
  | machineCodeIgnored (pc : UInt16) (nnn : Address)
  /-- The machine began to wait for a key. -/
  | waiting (pc : UInt16) (x : Nibble)
  /-- A key ended the wait of the machine. -/
  | released (key x : Nibble)
  /-- A word that is no instruction was skipped. -/
  | unknownWord (pc word : UInt16)
  /-- The host paused the machine. -/
  | paused (pc : UInt16)
  /-- The host let the machine go on. -/
  | resumed (pc : UInt16)
  /-- A character key has no key on the keypad. -/
  | unmappedKey (char : Char)
  /-- The host loop began. -/
  | running (cycles rate : Nat)
  /-- The host loop ended. -/
  | stopped (frames : Nat)
  /-- The sound device failed, and the host muted it. -/
  | soundFailed (error : SoundError)
  /-- The tone could not be stopped at the end of the host loop. -/
  | toneKept (error : SoundError)
  /-- A program ended well. -/
  | finished (title : String) (frames : Nat)
  /-- A program ended with an error. -/
  | failed (title : String) (error : Error)
  deriving DecidableEq

namespace LogRecord

/-- How severe a record is. -/
def level : LogRecord → LogLevel
  | .loaded _ => .info
  | .loadedFromReader => .info
  | .fetched _ _ _ => .trace
  | .machineCodeIgnored _ _ => .debug
  | .waiting _ _ => .debug
  | .released _ _ => .debug
  | .unknownWord _ _ => .warn
  | .paused _ => .debug
  | .resumed _ => .debug
  | .unmappedKey _ => .debug
  | .running _ _ => .info
  | .stopped _ => .info
  | .soundFailed _ => .warn
  | .toneKept _ => .warn
  | .finished _ _ => .info
  | .failed _ _ => .error

/-- A word or an address in four digits. -/
def word (value : UInt16) : String :=
  Hex.padded 4 value.toNat

/-- The name of a register. -/
def registerName (x : Nibble) : String :=
  "V" ++ String.singleton (Hex.digit x).toUpper

/-- The wording of a record. -/
def text : LogRecord → String
  | .loaded size => "loaded " ++ toString size ++ " byte program"
  | .loadedFromReader => "loaded program from reader"
  | .fetched pc code instruction =>
      word pc ++ ": " ++ word code ++ " " ++ instruction.asRecord
  | .machineCodeIgnored pc nnn =>
      word pc ++ ": ignoring machine code call to " ++ Hex.padded 3 nnn.val
  | .waiting pc x =>
      word pc ++ ": waiting for a key into " ++ registerName x
  | .released key x =>
      "key " ++ String.singleton (Hex.digit key) ++ " released wait into " ++
        registerName x
  | .unknownWord pc code =>
      word pc ++ ": unknown opcode " ++ word code ++ ", skipping"
  | .paused pc => "paused at " ++ word pc
  | .resumed pc => "resumed at " ++ word pc
  | .unmappedKey char =>
      "can't map " ++ Quoted.ofChar char ++ " to a COSMAC key"
  | .running cycles rate =>
      "running at " ++ toString cycles ++ " instructions per frame, " ++
        toString rate ++ " frames per second"
  | .stopped frames => "stopped after " ++ toString frames ++ " frames"
  | .soundFailed error => "sound device failed, muting: " ++ error.message
  | .toneKept error => "could not stop the tone: " ++ error.message
  | .finished title frames =>
      title ++ " finished after " ++ toString frames ++ " frames"
  | .failed title error => title ++ " stopped: " ++ error.message

/-- A record after the name of its level. -/
def line (record : LogRecord) : String :=
  record.level.name ++ " " ++ record.text

/--
A record on lines of its own; line breaks in its wording are kept, and what
follows them is indented.
-/
def lines (record : LogRecord) : List String :=
  match record.line.splitOn "\n" with
  | [] => []
  | first :: later => first :: later.map fun line => "    " ++ line

end LogRecord

end Chip8
