import Chip8.Proofs.Host.Terminal
import Chip8.Proofs.Keyboard
import Chip8.Proofs.Session.Stage

/-!
# The terminal is given back

A session takes over first the keyboard and then the screen, and gives back
what it has taken over in the opposite order, however it ends.  Whether the
program cannot be read, a device cannot be had, the program is too large, or
something fails in the middle of a run of any length: the keyboard is given
back once if it was taken over, with every call for the screen before that, and
the cursor is shown once if the screen was taken over completely.

What the session reports is the error of the first thing that has failed.
Showing the cursor is not among these things.
-/

namespace Chip8

namespace DeviceCall

/-- Whether it is one of the calls that take the screen over. -/
def isOpening : DeviceCall → Bool
  | .attempt .openScreen _ => true
  | .attempt .clearScreen _ => true
  | .attempt .hideCursor _ => true
  | _ => false

/-- Whether the screen is called: for itself, for its cursor or to draw. -/
def isOfScreen : DeviceCall → Bool
  | .attempt .showCursor _ => true
  | call => call.isOpening || call.isDrawing

variable {call : DeviceCall}

theorem isOfScreen_of_isOpening (opening : call.isOpening = true) :
    call.isOfScreen = true := by
  unfold isOfScreen
  split
  · rfl
  · rw [opening, Bool.true_or]

theorem isOfScreen_of_isDrawing (drawing : call.isDrawing = true) :
    call.isOfScreen = true := by
  unfold isOfScreen
  split
  · rfl
  · rw [drawing, Bool.or_true]

end DeviceCall

/-! ## Taking the screen over -/

namespace TerminalDisplay

variable {action : DeviceAction} {channel : Channel}

theorem prepare_of_works (works : channel.works = true) :
    prepare action channel =
      ⟨.ok (), (), [.call (.attempt action true)]⟩ := by
  simp only [prepare, works, if_true]

theorem prepare_of_fails (fails : channel.works = false) :
    prepare action channel =
      ⟨.error (.device action.failure), (),
        [.call (.attempt action false)]⟩ := by
  simp only [prepare, fails, Bool.false_eq_true, if_false]

/-- The calls by which the screen is taken over. -/
def openingCalls : List DeviceCall :=
  [.attempt .openScreen true, .attempt .clearScreen true,
    .attempt .hideCursor true]

theorem isOpening_of_openingCalls :
    ∀ call ∈ openingCalls, call.isOpening = true := by
  decide

/-- The screen is taken over by three calls, or one of them has failed. -/
theorem open_cases (channels : ScreenChannels) (title : String) :
    open? channels title =
        ⟨.ok ⟨title, channels.draw, channels.showCursor⟩, (),
          openingCalls.map .call⟩ ∨
      ∃ (error : IoError) (calls : List DeviceCall),
        open? channels title = ⟨.error error, (), calls.map .call⟩ ∧
          ∀ call ∈ calls, call.isOpening = true := by
  cases opens : channels.openScreen.works with
  | false =>
      right
      rw [open?, prepare_of_fails opens, Activity.andThen_of_error rfl]
      exact ⟨_, [.attempt .openScreen false], rfl, by decide⟩
  | true =>
  rw [open?, prepare_of_works opens, Activity.andThen_of_ok rfl]
  cases clears : channels.clearScreen.works with
  | false =>
      right
      rw [prepare_of_fails clears, Activity.andThen_of_error rfl]
      exact ⟨_, [.attempt .openScreen true, .attempt .clearScreen false], rfl,
        by decide⟩
  | true =>
  rw [prepare_of_works clears, Activity.andThen_of_ok rfl]
  cases hides : channels.hideCursor.works with
  | false =>
      right
      rw [prepare_of_fails hides, Activity.andThen_of_error rfl]
      exact ⟨_, [.attempt .openScreen true, .attempt .clearScreen true,
        .attempt .hideCursor false], rfl, by decide⟩
  | true =>
      left
      rw [prepare_of_works hides, Activity.andThen_of_ok rfl]
      rfl

theorem open_of_ok {channels : ScreenChannels} {title : String}
    {display : TerminalDisplay}
    (opened : (open? channels title).result = .ok display) :
    (open? channels title).trace = openingCalls.map .call ∧
      display.cursor = channels.showCursor := by
  rcases open_cases channels title with made | ⟨_, _, made, -⟩
  · rw [made] at opened ⊢
    cases opened
    exact ⟨rfl, rfl⟩
  · rw [made] at opened
    cases opened

theorem open_of_error {channels : ScreenChannels} {title : String}
    {error : IoError}
    (failed : (open? channels title).result = .error error) :
    ∃ calls : List DeviceCall,
      (open? channels title).trace = calls.map .call ∧
        ∀ call ∈ calls, call.isOpening = true := by
  rcases open_cases channels title with made | ⟨_, calls, made, screen⟩
  · rw [made] at failed
    cases failed
  · rw [made]
    exact ⟨calls, rfl, screen⟩

end TerminalDisplay

namespace Session

variable {σ : Type}

/-! ## The report of a run -/

section Reports

variable {made : Activity Event Error (Host Keyboard TerminalDisplay σ) Nat}
  {closeSound : σ → List Emission}

theorem failure_conclude (title : String) :
    (conclude title made closeSound).failure =
      match made.result with
      | .ok _ => none
      | .error error => some error.asRecord := by
  unfold conclude
  cases made.result <;> rfl

theorem exitCode_conclude (title : String) :
    (conclude title made closeSound).exitCode =
      if (conclude title made closeSound).failure.isSome then 1 else 0 := by
  unfold conclude
  dsimp only
  split <;> rfl

/-- Whatever has happened, the cursor is shown and the keyboard given back. -/
theorem calls_conclude (title : String) :
    (conclude title made closeSound).calls =
      deviceCalls made.trace ++
        [.attempt .showCursor made.state.display.cursor.works] ++
        .attempt .releaseKeyboard true ::
          deviceCalls ((closeSound made.state.sound).map Event.sound) := by
  have trace_eq : (conclude title made closeSound).trace =
      made.trace ++ made.state.display.close.map Event.display ++
        Keyboard.close.map Event.input ++
        [.told (verdict title made.result)] ++
        (closeSound made.state.sound).map Event.sound := by
    unfold conclude
    dsimp only
    split <;> rfl
  show deviceCalls _ = _
  rw [trace_eq]
  simp only [deviceCalls_append, List.append_assoc]
  rfl

end Reports

variable [SoundDevice σ]

/-! ## The ways in which a session goes -/

/--
Something that a session does returns an error, which is written out so:
reading the program, taking a device over, loading the program, or the run.
-/
inductive Stops (patience : Nat) (world : World) (options : Options)
    (sound : σ) : String → Prop where
  | reading {error : Error}
      (failed : Rom.load world.files options.path = .error error) :
      Stops patience world options sound error.asRecord
  | taking {program : List UInt8} {error : IoError}
      (read : Rom.load world.files options.path = .ok program)
      (failed : (Keyboard.open? world.keyboard world.waiting).result =
        .error error) :
      Stops patience world options sound error.asRecord
  | opening {program : List UInt8} {keyboard : Keyboard} {error : IoError}
      (read : Rom.load world.files options.path = .ok program)
      (taken : (Keyboard.open? world.keyboard world.waiting).result =
        .ok keyboard)
      (failed : (TerminalDisplay.open? world.screen
        (title options.path)).result = .error error) :
      Stops patience world options sound error.asRecord
  | loading {program : List UInt8} {keyboard : Keyboard}
      {display : TerminalDisplay} {error : Error}
      (ready : Ready world options program keyboard display)
      (failed : (loading world options program keyboard display
        sound).result = .error error) :
      Stops patience world options sound error.asRecord
  | running {program : List UInt8} {keyboard : Keyboard}
      {display : TerminalDisplay} {error : Error}
      {made : Activity Event Error (Host Keyboard TerminalDisplay σ) Nat}
      (ready : Ready world options program keyboard display)
      (loaded : (loading world options program keyboard display
        sound).result = .ok ())
      (ran : (loading world options program keyboard display
        sound).state.mainLoop? patience = some made)
      (failed : made.result = .error error) :
      Stops patience world options sound error.asRecord

/--
The program is loaded, and its run is allowed any number of frames and has not
ended within its patience.
-/
inductive Unfinished (patience : Nat) (world : World) (options : Options)
    (sound : σ) : Prop where
  | running {program : List UInt8} {keyboard : Keyboard}
      {display : TerminalDisplay}
      (unlimited : options.config.maxFrames = none)
      (ready : Ready world options program keyboard display)
      (loaded : (loading world options program keyboard display
        sound).result = .ok ())
      (lasts : (loading world options program keyboard display
        sound).state.mainLoop? patience = none) :
      Unfinished patience world options sound

/-- The device calls of a session, by how far it came. -/
inductive GivenBack (world : World) (options : Options) (report : Report) :
    Prop where
  /-- Without a program no device is called. -/
  | unread {error : Error}
      (failed : Rom.load world.files options.path = .error error)
      (calls : report.calls = [])
  /-- A keyboard that was not taken over is not given back. -/
  | untaken {program : List UInt8}
      (read : Rom.load world.files options.path = .ok program)
      (fails : world.keyboard.works = false)
      (calls : report.calls = [.attempt .takeKeyboard false])
  /-- Without a screen the keyboard is given back, and no frame is made. -/
  | unopened {program : List UInt8} {error : IoError}
      {opening : List DeviceCall}
      (read : Rom.load world.files options.path = .ok program)
      (works : world.keyboard.works = true)
      (failed : (TerminalDisplay.open? world.screen
        (title options.path)).result = .error error)
      (calls : report.calls =
        .attempt .takeKeyboard true :: opening ++
          [.attempt .releaseKeyboard true])
      (screen : ∀ call ∈ opening, call.isOpening = true)
      (nothing_else : ∀ event ∈ report.trace, event.call?.isSome = true)
  /-- The cursor is shown and the keyboard given back behind the run. -/
  | played {program : List UInt8} {keyboard : Keyboard}
      {display : TerminalDisplay} {playing after : List DeviceCall}
      (works : world.keyboard.works = true)
      (ready : Ready world options program keyboard display)
      (calls : report.calls =
        .attempt .takeKeyboard true ::
          (TerminalDisplay.openingCalls ++ playing ++
            [.attempt .showCursor world.screen.showCursor.works]) ++
          .attempt .releaseKeyboard true :: after)
      (draws : ∀ call ∈ playing, call.isDrawing = true ∨ call.isTone = true)
      (tones : ∀ call ∈ after, call.isTone = true)

/--
If the keyboard was taken over, it is given back once, and behind that nothing
but the speaker is called.
-/
theorem GivenBack.released {world : World} {options : Options}
    {report : Report} {program : List UInt8}
    (given : GivenBack world options report)
    (read : Rom.load world.files options.path = .ok program)
    (works : world.keyboard.works = true) :
    ∃ during after, report.calls =
        .attempt .takeKeyboard true :: during ++
          .attempt .releaseKeyboard true :: after ∧
      (∀ call ∈ during, call.isOfScreen = true ∨ call.isTone = true) ∧
      ∀ call ∈ after, call.isTone = true := by
  cases given with
  | unread failed calls =>
      rw [failed] at read
      cases read
  | untaken _ fails calls =>
      rw [fails] at works
      cases works
  | @unopened _ _ opening _ _ failed calls screen nothing_else =>
      refine ⟨opening, [], calls, fun call member => ?_, by simp⟩
      exact .inl (DeviceCall.isOfScreen_of_isOpening (screen call member))
  | @played _ _ _ playing after _ ready calls draws tones =>
      refine ⟨_, after, calls, ?_, tones⟩
      intro call member
      rcases List.mem_append.mp member with member | shown
      · rcases List.mem_append.mp member with opening | member
        · left
          exact DeviceCall.isOfScreen_of_isOpening
            (TerminalDisplay.isOpening_of_openingCalls call opening)
        · exact (draws call member).imp_left
            DeviceCall.isOfScreen_of_isDrawing
      · cases List.mem_singleton.mp shown
        exact .inl rfl

/-! ## Taking the terminal over -/

section Ways

variable {patience : Nat} {world : World} {options : Options}
  {program : List UInt8} {keyboard : Keyboard} {display : TerminalDisplay}
  {sound : σ} {closeSound : σ → List Emission} {report : Report}

theorem opening_eq {calls : List DeviceCall}
    (works : world.keyboard.works = true)
    (trace_eq : (TerminalDisplay.open? world.screen
      (title options.path)).trace = calls.map .call) :
    opening world options =
      .input (.call (.attempt .takeKeyboard true)) ::
        calls.map (Event.display ∘ Emission.call) := by
  rw [opening, Keyboard.open_of_works works, trace_eq, List.map_map]
  rfl

theorem deviceCalls_opening {calls : List DeviceCall}
    (begun : opening world options =
      .input (.call (.attempt .takeKeyboard true)) ::
        calls.map (Event.display ∘ Emission.call)) :
    deviceCalls (opening world options) =
      .attempt .takeKeyboard true :: calls := by
  have shown : deviceCalls (calls.map (Event.display ∘ Emission.call)) =
      calls := by
    rw [deviceCalls, List.filterMap_map]
    exact List.filterMap_some
  rw [begun]
  exact congrArg (_ :: ·) shown

theorem isSome_call_opening {calls : List DeviceCall}
    (begun : opening world options =
      .input (.call (.attempt .takeKeyboard true)) ::
        calls.map (Event.display ∘ Emission.call)) :
    ∀ event ∈ opening world options, event.call?.isSome = true := by
  intro event member
  rw [begun] at member
  rcases List.mem_cons.mp member with rfl | shown
  · rfl
  · obtain ⟨call, -, rfl⟩ := List.mem_map.mp shown
    rfl

/-! ## Playing -/

variable {made : Activity Event Error (Host Keyboard TerminalDisplay σ) Nat}

/-- Loading calls nothing but the speaker, and does not move the cursor. -/
theorem loading_calls (tones : TonesOnly σ) (world : World)
    (options : Options) (program : List UInt8) (keyboard : Keyboard)
    (display : TerminalDisplay) (sound : σ) :
    let made := loading world options program keyboard display sound
    CallsOnly DeviceCall.isPlaying made.trace ∧
      made.state.display.cursor = display.cursor :=
  ⟨(Host.callsOnly_load tones _ world.fresh program).widen
      DeviceCall.isPlaying_of_isTone,
    (Host.kept_cursor (σ := σ) display.cursor).load _ world.fresh program rfl⟩

/-- A run calls nothing that takes the terminal over or gives it back. -/
theorem mainLoop_calls (tones : TonesOnly σ)
    {host : Host Keyboard TerminalDisplay σ}
    (ran : host.mainLoop? patience = some made) :
    CallsOnly DeviceCall.isPlaying made.trace ∧
      made.state.display.cursor = host.display.cursor := by
  have kept := Host.kept_cursor (σ := σ) host.display.cursor
  refine ⟨Host.callsOnly_mainLoop tones ran, ?_⟩
  obtain ⟨rfl, -⟩ := Host.mainLoop_eq_some_iff.mp ran
  exact kept.silence _ (kept.runFrames rfl _)

/-! ## The end -/

omit [SoundDevice σ] in
/-- What is made behind the opening ends with the terminal given back. -/
theorem givenBack_conclude {playing : List Event}
    (ready : Ready world options program keyboard display)
    (trace_eq : made.trace = opening world options ++ playing)
    (quiet : CallsOnly DeviceCall.isPlaying playing)
    (cursor : made.state.display.cursor = display.cursor)
    (closing : ∀ sound,
      CallsOnly DeviceCall.isTone ((closeSound sound).map Event.sound)) :
    GivenBack world options
      (conclude (title options.path) made closeSound) := by
  have works := Keyboard.works_of_ok ready.taken
  obtain ⟨opened, shows⟩ := TerminalDisplay.open_of_ok ready.opened
  have begun := deviceCalls_opening (opening_eq works opened)
  have draws : ∀ call ∈ deviceCalls playing,
      call.isDrawing = true ∨ call.isTone = true := fun call member =>
    (Bool.or_eq_true _ _).mp (quiet call member)
  refine .played works ready ?_ draws (closing made.state.sound)
  rw [calls_conclude, trace_eq, deviceCalls_append, begun, cursor, shows]
  simp only [List.cons_append, List.append_assoc]

/-! ## Every session -/

theorem exitCode_eq
    (ran : runOn? patience world options sound closeSound = some report) :
    report.exitCode = if report.failure.isSome then 1 else 0 := by
  rcases runOn_cases ran with early | ⟨host, before, made, -, -, rfl⟩
  · cases early with
    | unread failed => rfl
    | untaken read failed => rfl
    | unopened read taken failed => rfl
    | unloaded ready failed => exact exitCode_conclude _
  · exact exitCode_conclude _

/-- There is a report unless a run without a limit outlasts its patience. -/
theorem runOn_eq_none_iff :
    runOn? patience world options sound closeSound = none ↔
      Unfinished patience world options sound := by
  constructor
  · intro unfinished
    have reached := stage world options sound closeSound
    cases prepared : prepare world options sound closeSound with
    | refused early =>
        rw [runOn_of_refused prepared] at unfinished
        cases unfinished
    | ready host before =>
        rw [runOn_of_ready prepared, Option.map_eq_none_iff] at unfinished
        rw [prepared] at reached
        cases reached with
        | loaded ready loaded =>
            exact .running (maxFrames_eq_none unfinished) ready loaded
              unfinished
  · rintro ⟨-, ready, loaded, lasts⟩
    rw [runOn_of_ready (prepare_of_loaded ready loaded), lasts]
    rfl

theorem failure_of_stops {text : String}
    (ran : runOn? patience world options sound closeSound = some report)
    (stops : Stops patience world options sound text) :
    report.failure = some text := by
  cases stops with
  | reading failed =>
      cases (runOn_of_refused (prepare_of_unread failed)).symm.trans ran
      rfl
  | taking read failed =>
      cases (runOn_of_refused (prepare_of_untaken read failed)).symm.trans ran
      rfl
  | opening read taken failed =>
      cases (runOn_of_refused
        (prepare_of_unopened read taken failed)).symm.trans ran
      rfl
  | loading ready failed =>
      cases (runOn_of_refused (prepare_of_unloaded ready failed)).symm.trans ran
      exact failure_conclude _
  | running ready loaded ended failed =>
      rw [runOn_of_ready (prepare_of_loaded ready loaded), ended] at ran
      cases ran
      rw [failure_conclude]
      dsimp only
      rw [failed]

theorem stops_of_failure {text : String}
    (ran : runOn? patience world options sound closeSound = some report)
    (failure : report.failure = some text) :
    Stops patience world options sound text := by
  rcases runOn_cases ran with early | ⟨host, before, made, reached, ended, rfl⟩
  · cases early with
    | unread failed =>
        cases failure
        exact .reading failed
    | untaken read failed =>
        cases failure
        exact .taking read failed
    | unopened read taken failed =>
        cases failure
        exact .opening read taken failed
    | unloaded ready failed =>
        cases (failure_conclude _).symm.trans failure
        exact .loading ready failed
  · cases reached with
    | loaded ready loaded =>
        rw [failure_conclude] at failure
        dsimp only at failure
        split at failure
        next => cases failure
        next failed =>
          cases failure
          exact .running ready loaded ended failed

/-- However a session ends, it gives back what it has taken over. -/
theorem givenBack (tones : TonesOnly σ)
    (closing : ∀ sound,
      CallsOnly DeviceCall.isTone ((closeSound sound).map Event.sound))
    (ran : runOn? patience world options sound closeSound = some report) :
    GivenBack world options report := by
  rcases runOn_cases ran with early | ⟨host, before, made, reached, ended, rfl⟩
  · cases early with
    | unread failed => exact .unread failed rfl
    | untaken read failed =>
        have fails := Keyboard.works_of_error failed
        refine .untaken read fails ?_
        rw [Keyboard.open_of_fails fails]
        rfl
    | unopened read taken failed =>
        have works := Keyboard.works_of_ok taken
        obtain ⟨calls, trace_eq, screen⟩ :=
          TerminalDisplay.open_of_error failed
        have begun := opening_eq works trace_eq
        refine .unopened read works failed ?_ screen ?_
        · show deviceCalls (_ ++ _) = _
          rw [deviceCalls_append, deviceCalls_opening begun]
          rfl
        · intro event member
          rcases List.mem_append.mp member with before | closing
          · exact isSome_call_opening begun event before
          · cases List.mem_singleton.mp closing
            rfl
    | @unloaded program keyboard display _ ready failed =>
        obtain ⟨quiet, cursor⟩ :=
          loading_calls tones world options program keyboard display sound
        exact givenBack_conclude ready rfl quiet cursor closing
  · cases reached with
    | @loaded program keyboard display ready loaded =>
        obtain ⟨quiet, cursor⟩ :=
          loading_calls tones world options program keyboard display sound
        obtain ⟨playing, kept⟩ := mainLoop_calls tones ended
        exact givenBack_conclude ready (List.append_assoc _ _ _)
          (quiet.append playing) (kept.trans cursor) closing

end Ways

/--
Whatever happens in a session, every call for the screen comes before the
keyboard is given back, and it is given back once if it was taken over.  The
session fails if and only if one of its parts does, and with that error.  It is
over, and remains what it is however long it is watched, unless a run that is
allowed any number of frames has outlasted its patience.
-/
theorem terminal_given_back (patience : Nat) (world : World)
    (options : Options) :
    (runWith? patience world options = none ↔
      if options.silent then
        Unfinished patience world options (SilentSound.mk false)
      else
        Unfinished patience world options
          (Speaker.silent world.starting world.stopping)) ∧
    ∀ report, runWith? patience world options = some report →
      (∀ longer, patience ≤ longer →
        runWith? longer world options = some report) ∧
      GivenBack world options report ∧
      (∀ program, Rom.load world.files options.path = .ok program →
        world.keyboard.works = true →
        ∃ during after, report.calls =
            .attempt .takeKeyboard true :: during ++
              .attempt .releaseKeyboard true :: after ∧
          (∀ call ∈ during,
            call.isOfScreen = true ∨ call.isTone = true) ∧
          ∀ call ∈ after, call.isTone = true) ∧
      report.exitCode = (if report.failure.isSome then 1 else 0) ∧
      ∀ text, report.failure = some text ↔
        if options.silent then
          Stops patience world options (SilentSound.mk false) text
        else
          Stops patience world options
            (Speaker.silent world.starting world.stopping) text := by
  unfold runWith? withSound
  cases options.silent with
  | true =>
      refine ⟨runOn_eq_none_iff, fun report ran => ?_⟩
      have given := givenBack SilentSound.tonesOnly
        (fun _ => .of_silent rfl) ran
      exact ⟨fun _ => runOn_of_le ran, given, fun _ => given.released,
        exitCode_eq ran, fun _ => ⟨stops_of_failure ran, failure_of_stops ran⟩⟩
  | false =>
      refine ⟨runOn_eq_none_iff, fun report ran => ?_⟩
      have given := givenBack Speaker.tonesOnly
        (fun speaker => Speaker.tonesOnly speaker false) ran
      exact ⟨fun _ => runOn_of_le ran, given, fun _ => given.released,
        exitCode_eq ran, fun _ => ⟨stops_of_failure ran, failure_of_stops ran⟩⟩

/-- A terminal at which this is waiting, and whose cursor cannot be shown. -/
def terminalWith (waiting : List (List Arrival)) : World where
  files := fun _ => .ok []
  waiting := waiting
  keyboard := .reliable
  screen := ⟨.reliable, .reliable, .reliable, .reliable, ⟨fun _ => true, 0⟩⟩
  starting := .reliable
  stopping := .reliable
  fresh := .ofSeed 0

/-- A program without bytes, with a limit for its frames or none. -/
def emptyProgram (maxFrames : Option UInt64) : Options :=
  ⟨.ofString "game.ch8", { maxFrames := maxFrames }, false⟩

/--
One run has a limit and fails at its first scan, and another has none and ends
at an Esc; both give back what they have taken over.
-/
theorem terminalWith_given_back :
    (∃ report,
      runWith? 0 (terminalWith [[.failed (.device "read failed")]])
          (emptyProgram (some 1)) = some report ∧
        (∃ during after, report.calls =
            .attempt .takeKeyboard true :: during ++
              .attempt .releaseKeyboard true :: after ∧
          ∀ call ∈ after, call.isTone = true) ∧
        report.failure =
          some (Error.io (.device "read failed")).asRecord ∧
        report.exitCode = 1) ∧
    ∃ report,
      (∀ patience, 1 ≤ patience →
        runWith? patience (terminalWith [[.event .escape]])
          (emptyProgram none) = some report) ∧
        (∃ during after, report.calls =
            .attempt .takeKeyboard true :: during ++
              .attempt .releaseKeyboard true :: after ∧
          ∀ call ∈ after, call.isTone = true) ∧
        report.failure = none ∧
        report.exitCode = 0 := by
  constructor
  · let world := terminalWith [[.failed (.device "read failed")]]
    let options := emptyProgram (some 1)
    have read : Rom.load world.files options.path = .ok [] := rfl
    obtain ⟨unfinished, ended⟩ := terminal_given_back 0 world options
    cases ran : runWith? 0 world options with
    | none =>
        cases unfinished.mp ran with
        | running unlimited => cases unlimited
    | some report =>
        obtain ⟨-, -, released, exitCode, fails⟩ := ended report ran
        have failure : report.failure =
            some (Error.io (.device "read failed")).asRecord :=
          (fails _).mpr (.running ⟨read, rfl, rfl⟩ rfl rfl rfl)
        obtain ⟨during, after, calls, -, tones⟩ := released [] read rfl
        refine ⟨report, rfl, ⟨during, after, calls, tones⟩, failure, ?_⟩
        rw [exitCode, failure]
        rfl
  · let world := terminalWith [[.event .escape]]
    let options := emptyProgram none
    have read : Rom.load world.files options.path = .ok [] := rfl
    have failures : (runWith? 1 world options).map Report.failure =
        some none := rfl
    obtain ⟨report, ran, failure⟩ := Option.map_eq_some_iff.mp failures
    obtain ⟨remains, -, released, exitCode, -⟩ :=
      (terminal_given_back 1 world options).2 report ran
    obtain ⟨during, after, calls, -, tones⟩ := released [] read rfl
    refine ⟨report, remains, ⟨during, after, calls, tones⟩, failure, ?_⟩
    rw [exitCode, failure]
    rfl

end Session

end Chip8
