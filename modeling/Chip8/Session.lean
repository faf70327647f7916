import Chip8.CommandLine
import Chip8.Device.Display
import Chip8.Device.Keyboard
import Chip8.Device.Sound
import Chip8.Host.Loop
import Chip8.Rom

/-!
# Sessions

A session is one run of the program from its command line to its exit code.
The program file is read before any device is called, so that what is wrong
with it can be told on a clean screen.  However the run ends, the screen is
given back before the keyboard, both before the error is told, and the speaker
last of all.
-/

namespace Chip8

/-- What the outside world holds for a session. -/
structure World where
  /-- The files. -/
  files : FileSystem
  /-- What the terminal tells at each scan. -/
  waiting : List (List Arrival)
  /-- Taking the keyboard over. -/
  keyboard : Channel
  /-- The calls of the display. -/
  screen : ScreenChannels
  /-- Starting the tone. -/
  starting : Channel
  /-- Stopping the tone. -/
  stopping : Channel
  /-- The random bytes, which a run with a seed reads from its seed on. -/
  fresh : RandomSource

/-- What a session leaves behind. -/
structure Report where
  /-- The exit code. -/
  exitCode : Nat
  /-- What happened, oldest first. -/
  trace : List Event
  /-- The error that is told at the end, written out. -/
  failure : Option String

namespace Report

/-- The device calls of a session. -/
def calls (report : Report) : List DeviceCall :=
  report.trace.filterMap Event.call?

/-- The log records of a session that a reader of one level sees. -/
def log (report : Report) (threshold : LogLevel) : List LogRecord :=
  (report.trace.filterMap Event.record?).filter fun record =>
    threshold.visibleAt record.level

/-- The last words of a session. -/
def farewell (report : Report) : List String :=
  report.failure.toList.map fun failure => "Error: " ++ failure

/-- What a session writes for people, without the log below errors. -/
def diagnostics (report : Report) : List String :=
  (report.log .error).flatMap LogRecord.lines ++ report.farewell

end Report

namespace Session

/-- The title of a run. -/
def title (path : Path) : String :=
  match path.fileName? with
  | some name => Text.Utf8.decodeLossy name
  | none => "CHIP-8"

/-- The report of a session that could not begin. -/
def refused (trace : List Event) (failure : String) : Report :=
  ⟨1, trace, some failure⟩

/-- The record that is written when a run is over. -/
def verdict (title : String) : Except Error Nat → LogRecord
  | .ok frames => .finished title frames
  | .error error => .failed title error

section Devices

variable {σ : Type} [SoundDevice σ]

/-- The run of a host and what follows when its devices are given back. -/
def conclude (title : String)
    (made : Activity Event Error (Host Keyboard TerminalDisplay σ) Nat)
    (closeSound : σ → List Emission) : Report :=
  let host := made.state
  let trace :=
    made.trace ++ host.display.close.map Event.display ++
      Keyboard.close.map Event.input ++
      [.told (verdict title made.result)] ++
      (closeSound host.sound).map Event.sound
  match made.result with
  | .ok _ => ⟨0, trace, none⟩
  | .error error => ⟨1, trace, some error.asRecord⟩

/-- Put the devices together into a host and load the program. -/
def loading (world : World) (options : Options) (program : List UInt8)
    (keyboard : Keyboard) (display : TerminalDisplay) (sound : σ) :
    Activity Event Error (Host Keyboard TerminalDisplay σ) Unit :=
  (Host.start options.config world.fresh keyboard display sound).load
    world.fresh program

/-- How far a session comes before its first frame. -/
inductive Beginning (σ : Type) where
  /-- There are no frames to be made. -/
  | refused (report : Report)
  /-- The program is loaded, and this has happened. -/
  | ready (host : Host Keyboard TerminalDisplay σ) (trace : List Event)

/--
Read the program, take the keyboard and the screen over, and load the program.
-/
def prepare (world : World) (options : Options) (sound : σ)
    (closeSound : σ → List Emission) : Beginning σ :=
  match Rom.load world.files options.path with
  | .error error => .refused (refused [] error.asRecord)
  | .ok program =>
      let taken := Keyboard.open? world.keyboard world.waiting
      let taking := taken.trace.map Event.input
      match taken.result with
      | .error error => .refused (refused taking error.asRecord)
      | .ok keyboard =>
          let opened :=
            TerminalDisplay.open? world.screen (title options.path)
          let before := taking ++ opened.trace.map Event.display
          match opened.result with
          | .error error =>
              .refused (refused (before ++ Keyboard.close.map Event.input)
                error.asRecord)
          | .ok display =>
              let loaded :=
                loading world options program keyboard display sound
              let trace := before ++ loaded.trace
              match loaded.result with
              | .error error =>
                  .refused (conclude (title options.path)
                    ⟨.error error, loaded.state, trace⟩ closeSound)
              | .ok () => .ready loaded.state trace

/-- A session with a given sound device. -/
def runOn? (patience : Nat) (world : World) (options : Options) (sound : σ)
    (closeSound : σ → List Emission) : Option Report :=
  match prepare world options sound closeSound with
  | .refused report => some report
  | .ready host before =>
      (host.mainLoop? patience).map fun made =>
        conclude (title options.path)
          { made with trace := before ++ made.trace } closeSound

end Devices

/-- Do something with the sound device that the options ask for. -/
def withSound {α : Type} (world : World) (options : Options)
    (act : {σ : Type} → [SoundDevice σ] → σ → (σ → List Emission) → α) : α :=
  if options.silent then act (SilentSound.mk false) fun _ => []
  else act (Speaker.silent world.starting world.stopping) Speaker.close

/-- A session with options that were understood. -/
def runWith? (patience : Nat) (world : World) (options : Options) :
    Option Report :=
  withSound world options fun sound closeSound =>
    runOn? patience world options sound closeSound

/--
A session from its arguments to its report.  A command line that starts no run
gives a refusal.  A run without a limit has a report if it ends within its
patience.
-/
def run? (patience : Nat) (world : World) (arguments : List String) :
    Except Refusal (Option Report) :=
  (CommandLine.parse arguments).map fun options =>
    runWith? patience world options

end Session

end Chip8
