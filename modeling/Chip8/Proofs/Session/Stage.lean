import Chip8.Proofs.Host.Run
import Chip8.Session

/-!
# The stages of a session

A session reads its program, takes the keyboard over, takes the screen over and
loads the program before its first frame.  It is refused at the first of these
that fails.  `Stage` says what has been done by then and what is reported; all
that is known of sessions is derived from it by cases.
-/

namespace Chip8

namespace Session

variable {σ : Type} [SoundDevice σ]

/-- The program was read and the terminal was taken over. -/
structure Ready (world : World) (options : Options) (program : List UInt8)
    (keyboard : Keyboard) (display : TerminalDisplay) : Prop where
  read : Rom.load world.files options.path = .ok program
  taken : (Keyboard.open? world.keyboard world.waiting).result = .ok keyboard
  opened :
    (TerminalDisplay.open? world.screen (title options.path)).result =
      .ok display

/-- What happens while the terminal is taken over. -/
def opening (world : World) (options : Options) : List Event :=
  (Keyboard.open? world.keyboard world.waiting).trace.map Event.input ++
    (TerminalDisplay.open? world.screen
      (title options.path)).trace.map Event.display

section Ways

variable {patience : Nat} {world : World} {options : Options}
  {program : List UInt8} {keyboard : Keyboard} {display : TerminalDisplay}
  {sound : σ} {closeSound : σ → List Emission} {report : Report}

/-! ## Before the first frame -/

theorem prepare_of_unread {error : Error}
    (failed : Rom.load world.files options.path = .error error) :
    prepare world options sound closeSound =
      .refused (refused [] error.asRecord) := by
  rw [prepare, failed]

theorem prepare_of_untaken {error : IoError}
    (read : Rom.load world.files options.path = .ok program)
    (failed : (Keyboard.open? world.keyboard world.waiting).result =
      .error error) :
    prepare world options sound closeSound =
      .refused (refused
        ((Keyboard.open? world.keyboard world.waiting).trace.map Event.input)
        error.asRecord) := by
  rw [prepare, read]
  dsimp only
  rw [failed]

theorem prepare_of_unopened {error : IoError}
    (read : Rom.load world.files options.path = .ok program)
    (taken : (Keyboard.open? world.keyboard world.waiting).result =
      .ok keyboard)
    (failed : (TerminalDisplay.open? world.screen
      (title options.path)).result = .error error) :
    prepare world options sound closeSound =
      .refused (refused
        (opening world options ++ Keyboard.close.map Event.input)
        error.asRecord) := by
  rw [prepare, read]
  dsimp only
  rw [taken]
  dsimp only
  rw [failed]
  rfl

theorem prepare_of_unloaded {error : Error}
    (ready : Ready world options program keyboard display)
    (failed : (loading world options program keyboard display
      sound).result = .error error) :
    prepare world options sound closeSound =
      .refused (conclude (title options.path)
        ⟨.error error,
          (loading world options program keyboard display sound).state,
          opening world options ++
            (loading world options program keyboard display sound).trace⟩
        closeSound) := by
  obtain ⟨read, taken, opened⟩ := ready
  rw [prepare, read]
  dsimp only
  rw [taken]
  dsimp only
  rw [opened]
  dsimp only
  rw [failed]
  rfl

theorem prepare_of_loaded
    (ready : Ready world options program keyboard display)
    (loaded : (loading world options program keyboard display
      sound).result = .ok ()) :
    prepare world options sound closeSound =
      .ready (loading world options program keyboard display sound).state
        (opening world options ++
          (loading world options program keyboard display sound).trace) := by
  obtain ⟨read, taken, opened⟩ := ready
  rw [prepare, read]
  dsimp only
  rw [taken]
  dsimp only
  rw [opened]
  dsimp only
  rw [loaded]
  rfl

/-- How far a session comes before its first frame. -/
inductive Stage (world : World) (options : Options) (sound : σ)
    (closeSound : σ → List Emission) : Beginning σ → Prop where
  | unread {error : Error}
      (failed : Rom.load world.files options.path = .error error) :
      Stage world options sound closeSound
        (.refused (refused [] error.asRecord))
  | untaken {program : List UInt8} {error : IoError}
      (read : Rom.load world.files options.path = .ok program)
      (failed : (Keyboard.open? world.keyboard world.waiting).result =
        .error error) :
      Stage world options sound closeSound (.refused (refused
        ((Keyboard.open? world.keyboard world.waiting).trace.map Event.input)
        error.asRecord))
  | unopened {program : List UInt8} {keyboard : Keyboard} {error : IoError}
      (read : Rom.load world.files options.path = .ok program)
      (taken : (Keyboard.open? world.keyboard world.waiting).result =
        .ok keyboard)
      (failed : (TerminalDisplay.open? world.screen
        (title options.path)).result = .error error) :
      Stage world options sound closeSound (.refused (refused
        (opening world options ++ Keyboard.close.map Event.input)
        error.asRecord))
  | unloaded {program : List UInt8} {keyboard : Keyboard}
      {display : TerminalDisplay} {error : Error}
      (ready : Ready world options program keyboard display)
      (failed : (loading world options program keyboard display
        sound).result = .error error) :
      Stage world options sound closeSound (.refused (conclude
        (title options.path)
        ⟨.error error,
          (loading world options program keyboard display sound).state,
          opening world options ++
            (loading world options program keyboard display sound).trace⟩
        closeSound))
  | loaded {program : List UInt8} {keyboard : Keyboard}
      {display : TerminalDisplay}
      (ready : Ready world options program keyboard display)
      (loaded : (loading world options program keyboard display
        sound).result = .ok ()) :
      Stage world options sound closeSound (.ready
        (loading world options program keyboard display sound).state
        (opening world options ++
          (loading world options program keyboard display sound).trace))

/-- Every session comes to one of these stages. -/
theorem stage (world : World) (options : Options) (sound : σ)
    (closeSound : σ → List Emission) :
    Stage world options sound closeSound
      (prepare world options sound closeSound) := by
  cases read : Rom.load world.files options.path with
  | error error =>
      rw [prepare_of_unread read]
      exact .unread read
  | ok program =>
  cases taken : (Keyboard.open? world.keyboard world.waiting).result with
  | error error =>
      rw [prepare_of_untaken read taken]
      exact .untaken read taken
  | ok keyboard =>
  cases opened : (TerminalDisplay.open? world.screen
      (title options.path)).result with
  | error error =>
      rw [prepare_of_unopened read taken opened]
      exact .unopened read taken opened
  | ok display =>
  have ready : Ready world options program keyboard display :=
    ⟨read, taken, opened⟩
  cases loaded : (loading world options program keyboard display
      sound).result with
  | error error =>
      rw [prepare_of_unloaded ready loaded]
      exact .unloaded ready loaded
  | ok value =>
      rw [prepare_of_loaded ready loaded]
      exact .loaded ready loaded

theorem runOn_of_refused
    (prepared : prepare world options sound closeSound = .refused report) :
    runOn? patience world options sound closeSound = some report := by
  rw [runOn?, prepared]

theorem runOn_of_ready {host : Host Keyboard TerminalDisplay σ}
    {before : List Event}
    (prepared :
      prepare world options sound closeSound = .ready host before) :
    runOn? patience world options sound closeSound =
      (host.mainLoop? patience).map fun made =>
        conclude (title options.path)
          { made with trace := before ++ made.trace } closeSound := by
  rw [runOn?, prepared]

/-- A session that is over is the same however long it is watched. -/
theorem runOn_of_le {longer : Nat}
    (ran : runOn? patience world options sound closeSound = some report)
    (patient : patience ≤ longer) :
    runOn? longer world options sound closeSound = some report := by
  cases prepared : prepare world options sound closeSound with
  | refused early =>
      rw [runOn_of_refused prepared] at ran ⊢
      exact ran
  | ready host before =>
      rw [runOn_of_ready prepared] at ran ⊢
      obtain ⟨made, ended, rfl⟩ := Option.map_eq_some_iff.mp ran
      rw [Host.mainLoop_of_le ended patient]
      rfl

/-- A session that is over was refused, or its run has ended. -/
theorem runOn_cases
    (ran : runOn? patience world options sound closeSound = some report) :
    Stage world options sound closeSound (.refused report) ∨
      ∃ host before made,
        Stage world options sound closeSound (.ready host before) ∧
          host.mainLoop? patience = some made ∧
          report = conclude (title options.path)
            { made with trace := before ++ made.trace } closeSound := by
  have reached := stage world options sound closeSound
  cases prepared : prepare world options sound closeSound with
  | refused early =>
      rw [runOn_of_refused prepared] at ran
      rw [prepared] at reached
      cases ran
      exact .inl reached
  | ready host before =>
      rw [runOn_of_ready prepared] at ran
      rw [prepared] at reached
      obtain ⟨made, ended, rfl⟩ := Option.map_eq_some_iff.mp ran
      exact .inr ⟨host, before, made, reached, ended, rfl⟩

/-! ## The settings -/

/-- A session that comes to its first scan has loaded its program. -/
theorem loaded_of_prepare {host : Host Keyboard TerminalDisplay σ}
    {before : List Event}
    (prepared : prepare world options sound closeSound =
      .ready host before) :
    ∃ program keyboard display,
      Ready world options program keyboard display ∧
        host =
          (loading world options program keyboard display sound).state := by
  have reached := stage world options sound closeSound
  rw [prepared] at reached
  cases reached with
  | loaded ready loaded => exact ⟨_, _, _, ready, rfl⟩

theorem config_prepare {host : Host Keyboard TerminalDisplay σ}
    {before : List Event}
    (prepared : prepare world options sound closeSound =
      .ready host before) :
    host.config = options.config := by
  obtain ⟨program, keyboard, display, -, rfl⟩ := loaded_of_prepare prepared
  exact Host.config_load _ world.fresh program

/-- Only a run without a limit can go on for longer than it is watched. -/
theorem maxFrames_eq_none
    (lasts : (loading world options program keyboard display
      sound).state.mainLoop? patience = none) :
    options.config.maxFrames = none := by
  have settings := Host.config_load
    (.start options.config world.fresh keyboard display sound) world.fresh
    program
  have unlimited := (Host.completedFrames_of_mainLoop_eq_none lasts).1
  rw [loading, settings] at unlimited
  exact unlimited

end Ways

end Session

end Chip8
