import Chip8.Device.Display
import Chip8.Device.KeyScript
import Chip8.Device.Sound
import Chip8.Proofs.Host.Run

/-!
# Loading another program

A program that fits is loaded whatever became of the machine before: the new
machine is the one that a new host with the same settings has after the same
load, whichever devices it has.  Nothing that is done with the keys and frames
of the two hosts from then on can tell them apart.

A program that does not fit leaves the host as it was, and no device is called.

Two facts carry this.  What keys and frames come to depends on the machine of a
host and its settings alone, and the settings are kept in use.
-/

namespace Chip8

/-- What can be done with a host besides loading programs. -/
inductive Turn where
  /-- Press and release keys. -/
  | keys (change : Keypad → Keypad)
  /-- Make the steps and the tick of one frame. -/
  | frame

namespace Host

variable {ι δ σ ι' δ' σ' : Type}

/-! ## Turns -/

/-- What a host makes of a turn. -/
def take (host : Host ι δ σ) :
    Turn → Activity Event Error (Host ι δ σ) Unit
  | .keys change =>
      .done () { host with
        machine := { host.machine with
          keypad := change host.machine.keypad } }
  | .frame => host.runFrame

/-- What is seen of turns: results, machines and what happened. -/
def play (host : Host ι δ σ) :
    List Turn → List (Activity Event Error Machine Unit)
  | [] => []
  | turn :: rest =>
      let made := host.take turn
      ⟨made.result, made.state.machine, made.trace⟩ :: made.state.play rest

variable {host : Host ι δ σ} {other : Host ι' δ' σ'}

/-- Hosts with the same machine and settings make the same of a turn. -/
theorem take_congr (machines : host.machine = other.machine)
    (settings : host.config = other.config) (turn : Turn) :
    (host.take turn).result = (other.take turn).result ∧
      (host.take turn).trace = (other.take turn).trace ∧
      (host.take turn).state.machine = (other.take turn).state.machine ∧
      (host.take turn).state.config = (other.take turn).state.config := by
  cases turn with
  | keys change =>
      refine ⟨rfl, rfl, ?_, settings⟩
      exact congrArg (fun machine : Machine =>
        { machine with keypad := change machine.keypad }) machines
  | frame =>
      rw [take, take, runFrame_eq_onMachine, runFrame_eq_onMachine, onMachine,
        onMachine, machines, settings]
      exact ⟨rfl, rfl, rfl, rfl⟩

theorem play_congr (machines : host.machine = other.machine)
    (settings : host.config = other.config) (turns : List Turn) :
    host.play turns = other.play turns := by
  induction turns generalizing host other with
  | nil => rfl
  | cons turn rest further =>
      -- A turn keeps both agreements, which the next one needs.
      rcases take_congr machines settings turn with
        ⟨results, traces, machines, settings⟩
      rw [play, play, results, traces, machines, further machines settings]

/-! ## Loads -/

variable [SoundDevice σ]

/-- What a load that succeeds makes of the machine. -/
theorem load_of_fits (host : Host ι δ σ) (fresh : RandomSource)
    {program : List UInt8} (fits : program.length ≤ Memory.programCapacity) :
    (host.load fresh program).result = .ok () ∧
      (host.load fresh program).state.machine =
        .loaded (host.config.randomSource fresh) program := by
  rw [load, Machine.withProgram_of_fits _ fits]
  have updated := updateSound_eq { host with
    machine := .loaded (host.config.randomSource fresh) program }
  exact ⟨updated.1, updated.2.1⟩

theorem load_of_tooLarge (host : Host ι δ σ) (fresh : RandomSource)
    {program : List UInt8} (large : Memory.programCapacity < program.length) :
    host.load fresh program =
      ⟨.error (.programTooLarge program.length), host, []⟩ := by
  rw [load, Machine.withProgram_of_tooLarge _ large]

variable [InputDevice ι] [DisplayDevice δ] [SoundDevice σ']

/--
Whatever has become of a host, a program of at most 3584 bytes is loaded as by
a new host with the same settings, and nothing tells the two apart afterwards.
The random bytes come from a fresh source, which reads the sequence of the seed
if there is one.  A larger program is refused, and nothing else happens.
-/
theorem load_leaves_no_residue {config : Config} {before : RandomSource}
    {input : ι} {display : δ} {sound : σ}
    (reached : Reached (.start config before input display sound) host)
    (before' : RandomSource) (input' : ι') (display' : δ') (sound' : σ')
    (fresh : RandomSource) (program : List UInt8) :
    let again := host.load fresh program
    let anew := (Host.start config before' input' display' sound').load fresh
      program
    (program.length ≤ 3584 →
      again.result = .ok () ∧ anew.result = .ok () ∧
      again.state.machine = anew.state.machine ∧
      (∀ turns, again.state.play turns = anew.state.play turns) ∧
      (∀ seed, config.seed = some seed →
        again.state.machine.random = fresh.reseed seed) ∧
      (config.seed = none → again.state.machine.random = fresh)) ∧
    (3584 < program.length →
      again = ⟨.error (.programTooLarge program.length), host, []⟩) := by
  intro again anew
  have settings : host.config = config := reached.config_eq
  constructor
  · intro fits
    rcases host.load_of_fits fresh fits with ⟨succeeds, machine⟩
    rcases (Host.start config before' input' display' sound').load_of_fits
      fresh fits with ⟨succeeds', machine'⟩
    rw [settings] at machine
    have machines : again.state.machine = anew.state.machine :=
      machine.trans machine'.symm
    have kept : again.state.config = anew.state.config :=
      calc again.state.config
        _ = host.config := host.config_load fresh program
        _ = config := settings
        _ = anew.state.config :=
          (config_load (.start config before' input' display' sound') fresh
            program).symm
    refine ⟨succeeds, succeeds', machines, play_congr machines kept, ?_, ?_⟩
    · intro seed seeded
      show again.state.machine.random = _
      rw [machine, Config.randomSource, seeded]
      rfl
    · intro unseeded
      rw [machine, Config.randomSource, unseeded]
      rfl
  · intro large
    exact host.load_of_tooLarge fresh large

/-- A host whose user holds a key down and then pauses the machine. -/
def pausingHost : Host KeyScript FrameRecorder SilentSound :=
  .start ⟨0, 60, false, some 2, none⟩ (.ofSeed 0)
    ⟨[⟨[5], none⟩, ⟨[5], some .togglePause⟩]⟩ .empty ⟨false⟩

/-- The same host after its run. -/
def pausedHost : Host KeyScript FrameRecorder SilentSound :=
  (finish (pausingHost.runFrames 2)).state

/-- A host with a key down and paused loads a program as a new one does. -/
theorem pausedHost_load :
    Reached pausingHost pausedHost ∧
      pausedHost.machine.paused = true ∧
      pausedHost.machine.keypad = .ofCodes [5] ∧
      (pausedHost.load (.ofSeed 1) [0x12, 0x00]).state.machine =
        (pausingHost.load (.ofSeed 1) [0x12, 0x00]).state.machine ∧
      pausedHost.load (.ofSeed 1) (List.replicate 3585 0) =
        ⟨.error (.programTooLarge 3585), pausedHost, []⟩ := by
  have ran :
      pausingHost.mainLoop? 0 = some (finish (pausingHost.runFrames 2)) := rfl
  have reached : Reached pausingHost pausedHost := Reached.start.mainLoop ran
  have small := load_leaves_no_residue reached (.ofSeed 0) pausingHost.input
    pausingHost.display pausingHost.sound (.ofSeed 1) [0x12, 0x00]
  have large := load_leaves_no_residue reached (.ofSeed 0) pausingHost.input
    pausingHost.display pausingHost.sound (.ofSeed 1) (List.replicate 3585 0)
  refine ⟨reached, rfl, rfl, (small.1 (by decide)).2.2.1, ?_⟩
  rw [List.length_replicate] at large
  exact large.2 (Nat.lt_succ_self 3584)

end Host

end Chip8
