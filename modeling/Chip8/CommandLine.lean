import Chip8.Config
import Chip8.File.Path

/-!
# The command line

The program takes one path and some options.  An option with a value is written
`--name value` or `--name=value`, and a value of its own may not look like an
option.  After `--` everything is a path.  No option may be given twice, none
may be shortened, and exactly one path has to be given.

Arguments are judged from left to right: the first one that is wrong, or asks
for help, decides.
-/

namespace Chip8

/-- What the command line asks for. -/
structure Options where
  /-- The path of the program file. -/
  path : Path
  /-- The settings of the host. -/
  config : Config
  /-- Whether no speaker is to be used at all. -/
  silent : Bool
  deriving DecidableEq

/-- Why a command line starts no run. -/
inductive Refusal where
  /-- It asks for help. -/
  | help
  /-- It is malformed. -/
  | usage
  deriving DecidableEq

namespace Refusal

/-- The exit code of a command line that starts no run. -/
def exitCode : Refusal → Nat
  | .help => 0
  | .usage => 2

end Refusal

namespace CommandLine

/-- What the arguments so far have said. -/
structure Draft where
  /-- The path. -/
  path : Option String := none
  /-- How many instructions a frame has. -/
  cycles : Option UInt32 := none
  /-- How many frames a second has. -/
  rate : Option UInt32 := none
  /-- How many frames are made; zero for no limit. -/
  frames : Option UInt64 := none
  /-- The seed of the random bytes. -/
  seed : Option UInt64 := none
  /-- Whether the tone is muted at first. -/
  mute : Bool := false
  /-- Whether no speaker is used. -/
  silent : Bool := false
  deriving DecidableEq

/-! ## Numbers -/

/-- The number that some decimal digits write. -/
def digits? (text : List Char) : Option Nat :=
  if text ≠ [] ∧ text.all Char.isDigit then
    some (Nat.ofDigitChars 10 text 0)
  else none

/-- A number below 2^64, with a plus sign or without. -/
def wide? (text : List Char) : Option UInt64 := do
  let value ← digits? <|
    match text with
    | '+' :: rest => rest
    | _ => text
  if value < UInt64.size then some (UInt64.ofNat value) else none

/-- A number below 2^32, with a sign or without; only zero may be negative. -/
def narrow? (text : List Char) : Option UInt32 :=
  match text with
  | '-' :: rest =>
      match digits? rest with
      | some 0 => some 0
      | _ => none
  | _ => do
      let value ← wide? text
      if value.toNat < UInt32.size then some value.toUInt32 else none

/-! ## Options -/

/-- Fill a place that has to be empty. -/
def fill {α : Type} (place value : Option α) : Except Refusal (Option α) :=
  match place, value with
  | none, some value => .ok (some value)
  | _, _ => .error .usage

/-- The names of the options that have a value. -/
def valued : List String := ["cycles", "fps", "frames", "seed"]

/-- Take an option with its value. -/
def setValue (draft : Draft) (name : String) (value : List Char) :
    Except Refusal Draft :=
  match name with
  | "cycles" =>
      (fill draft.cycles (narrow? value)).map fun cycles =>
        { draft with cycles }
  | "fps" =>
      (fill draft.rate (narrow? value)).map fun rate =>
        { draft with rate }
  | "frames" =>
      (fill draft.frames (wide? value)).map fun frames =>
        { draft with frames }
  | "seed" =>
      (fill draft.seed (wide? value)).map fun seed =>
        { draft with seed }
  | _ => .error .usage

/-- Take an option without a value. -/
def setFlag (draft : Draft) (name : String) : Except Refusal Draft :=
  match name with
  | "mute" =>
      if draft.mute then .error .usage else .ok { draft with mute := true }
  | "silent" =>
      if draft.silent then .error .usage else .ok { draft with silent := true }
  | "help" => .error .help
  | _ => .error .usage

/-- Take a path. -/
def setPath (draft : Draft) (path : String) : Except Refusal Draft :=
  if draft.path.isSome || path.isEmpty then .error .usage
  else .ok { draft with path := some path }

/-- What kind of argument some characters are. -/
inductive Argument where
  /-- Two hyphens. -/
  | pathsFollow
  /-- `--name=value`. -/
  | assignment (name : String) (value : List Char)
  /-- `--name`. -/
  | long (name : String)
  /-- `-c`, with the first of its characters. -/
  | short (char : Char)
  /-- Anything else. -/
  | plain (text : String)
  deriving DecidableEq

/-- The kind of an argument. -/
def Argument.ofString (text : String) : Argument :=
  match text.toList with
  | ['-', '-'] => .pathsFollow
  | '-' :: '-' :: rest =>
      let name := String.ofList (rest.takeWhile fun char => char != '=')
      match rest.dropWhile fun char => char != '=' with
      | _ :: value => .assignment name value
      | [] => .long name
  | '-' :: char :: _ => .short char
  | _ => .plain text

/-- Take the paths after two hyphens. -/
def readPaths (draft : Draft) : List String → Except Refusal Draft
  | [] => .ok draft
  | path :: rest => do readPaths (← setPath draft path) rest

/--
Take arguments from left to right.  A name that waits for its value is the
second part of what was said so far.
-/
def read (draft : Draft) (awaited : Option String) :
    List String → Except Refusal Draft
  | [] =>
      match awaited with
      | none => .ok draft
      | some _ => .error .usage
  | text :: rest =>
      match awaited, Argument.ofString text with
      | some name, .plain value => do
          read (← setValue draft name value.toList) none rest
      | some _, _ => .error .usage
      | none, .pathsFollow => readPaths draft rest
      | none, .assignment name value => do
          read (← setValue draft name value) none rest
      | none, .long name =>
          if name ∈ valued then read draft (some name) rest
          else do read (← setFlag draft name) none rest
      | none, .short char =>
          .error (if char = 'h' then .help else .usage)
      | none, .plain path => do read (← setPath draft path) none rest

/-- The options that a complete draft stands for. -/
def Draft.complete (draft : Draft) : Except Refusal Options :=
  match draft.path with
  | none => .error .usage
  | some path =>
      .ok
        { path := .ofString path
          silent := draft.silent
          config :=
            { cyclesPerFrame := draft.cycles.getD 10
              frameRate := draft.rate.getD 60
              muted := draft.mute
              maxFrames := draft.frames.filter fun frames => frames != 0
              seed := draft.seed } }

/-- The options that the arguments ask for. -/
def parse (arguments : List String) : Except Refusal Options := do
  (← read {} none arguments).complete

end CommandLine

end Chip8
