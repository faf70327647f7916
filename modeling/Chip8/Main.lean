import Chip8.Session.Progress

/-!
# The program

This module lets a session happen: it reads the program file, hands over what
is typed, and does to the terminal what the devices ask for.  What is typed
arrives line by line, so keys are sent by the return key.  Everything that is
decided is decided by the session.
-/

namespace Chip8.Main

/-- Why a file could not be read. -/
def reasonOf : IO.Error → IoError
  | .noFileOrDirectory _ _ _ => .notFound
  | .inappropriateType _ 20 _ => .notDirectory
  | .inappropriateType _ _ _ => .isDirectory
  | .invalidArgument _ 36 _ => .nameTooLong
  | error => .device error.toString

/-- The bytes of the file at a path. -/
def readProgram (path : Path) : IO (Except IoError (List UInt8)) := do
  try
    return .ok (← IO.FS.readBinFile path.text).data.toList
  catch error => return .error (reasonOf error)

/-- What a typed character tells. -/
def arrivalOf? : Char → Option Arrival
  | '\n' => none
  | '\x1b' => some (.event .escape)
  | char => some (.event (.character char))

/-- Collect what is typed until there is no more. -/
partial def collect (typed : IO.Ref (List Arrival)) : IO Unit := do
  let line ← (← IO.getStdin).getLine
  unless line.isEmpty do
    typed.modify fun earlier => earlier ++ line.toList.filterMap arrivalOf?
    collect typed

/-- Write a record down if it tells of an error. -/
def tell (record : LogRecord) : IO Unit :=
  if LogLevel.error.visibleAt record.level then
    record.lines.forM fun line => IO.eprintln line
  else pure ()

/-- Do to the terminal what an event asks for. -/
def happen : Event → IO Unit
  | .display (.call (.attempt .clearScreen true)) => IO.print "\x1b[2J"
  | .display (.call (.attempt .hideCursor true)) => IO.print "\x1b[?25l"
  | .display (.call (.attempt .showCursor true)) => IO.print "\x1b[?25h"
  | .sound (.call (.attempt (.tone pitch) true)) =>
      if pitch = 0 then pure () else IO.print "\x07"
  | .drew frame => do
      IO.print ("\x1b[H" ++ frame.text ++ "\n")
      (← IO.getStdout).flush
  | event => event.record?.forM tell

/-- A world of which only the program file and the random bytes are known. -/
def worldWith (contents : Except IoError (List UInt8)) (seed : UInt64) :
    World where
  files := fun _ => contents
  waiting := []
  keyboard := .reliable
  screen := ⟨.reliable, .reliable, .reliable, .reliable, .reliable⟩
  starting := .reliable
  stopping := .reliable
  fresh := .ofSeed seed

/-- Wait for the end of a frame that began at a time in milliseconds. -/
def pace (config : Config) (began : Nat) : IO Unit := do
  let elapsed := (← IO.monoMsNow) - began
  IO.sleep (UInt32.ofNat (1000 / max config.frameRate.toNat 1 - elapsed))

/-- Let a session go on until it is over. -/
partial def perform {σ : Type} [SoundDevice σ] (title : String)
    (closeSound : σ → List Emission) (typed : IO.Ref (List Arrival)) :
    Session.Progress σ → IO UInt32
  | .ended report => do
      report.trace.forM happen
      report.farewell.forM fun line => IO.eprintln line
      return UInt32.ofNat report.exitCode
  | .playing host completed trace => do
      let began ← IO.monoMsNow
      trace.forM happen
      let now ← typed.modifyGet fun earlier => (earlier, [])
      let progress := Session.resume title closeSound host completed now
      pace host.config began
      perform title closeSound typed progress

/-- Run the program that some options name. -/
def runWith (options : Options) : IO UInt32 := do
  let contents ← readProgram options.path
  let entropy ← IO.rand 0 (UInt64.size - 1)
  let world := worldWith contents (UInt64.ofNat entropy)
  let typed ← IO.mkRef []
  let _ ← IO.asTask (collect typed) .dedicated
  Session.withSound world options fun sound closeSound =>
    perform (Session.title options.path) closeSound typed
      (Session.start world options sound closeSound)

/-- How the program is called. -/
def usage : String :=
  "usage: chip8 [--cycles N] [--fps N] [--mute] [--silent] [--frames N] " ++
    "[--seed N] PROGRAM"

end Chip8.Main

/-- Run the program on a command line. -/
def main (arguments : List String) : IO UInt32 := do
  match Chip8.CommandLine.parse arguments with
  | .ok options => Chip8.Main.runWith options
  | .error .help =>
      IO.println Chip8.Main.usage
      return UInt32.ofNat (Chip8.Refusal.exitCode .help)
  | .error .usage =>
      IO.eprintln Chip8.Main.usage
      return UInt32.ofNat (Chip8.Refusal.exitCode .usage)
