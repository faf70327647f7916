import Chip8.Proofs.Host.Expecting
import Chip8.Proofs.Keyboard
import Chip8.Proofs.Session.Stage

/-!
# Sessions frame by frame

A session that is held frame by frame, and hears what is waiting at a scan only
when the scan is due, is the session that knew all of it from the beginning.
While it goes on it has made the first frames of that session, and when it is
over it has the same report, whatever would have been waiting later.
-/

namespace Chip8

/-- The same world, with other things waiting at its scans. -/
def World.hearing (world : World) (scans : List (List Arrival)) : World :=
  { world with waiting := scans }

namespace Session

variable {σ : Type} {name : String} {closeSound : σ → List Emission}

/-- A report does not tell what is waiting at further scans. -/
theorem conclude_expecting
    (made : Activity Event Error (Host Keyboard TerminalDisplay σ) Nat)
    (scans : List (List Arrival)) (name : String)
    (closeSound : σ → List Emission) :
    conclude name (made.mapState fun host => host.expecting scans)
      closeSound = conclude name made closeSound := by
  obtain ⟨result, state, trace⟩ := made
  cases result <;> rfl

/-- What has happened before a run stands before it in the report. -/
theorem conclude_after
    (made : Activity Event Error (Host Keyboard TerminalDisplay σ) Nat)
    (earlier : List Event) (name : String) (closeSound : σ → List Emission) :
    conclude name { made with trace := earlier ++ made.trace } closeSound =
      { conclude name made closeSound with
        trace := earlier ++ (conclude name made closeSound).trace } := by
  obtain ⟨result, state, trace⟩ := made
  cases result <;> simp only [conclude, List.append_assoc]

theorem after_after (progress : Progress σ) (earlier later : List Event) :
    (progress.after later).after earlier =
      progress.after (earlier ++ later) := by
  cases progress <;> simp only [Progress.after, List.append_assoc]

variable [SoundDevice σ]

/-! ## The beginning -/

variable (world : World) (options : Options) (sound : σ)
  (scans : List (List Arrival))

theorem loading_hearing (program : List UInt8) (held : Vector Nat 16)
    (display : TerminalDisplay) :
    loading { world with waiting := scans } options program ⟨held, scans⟩
        display sound =
      (loading { world with waiting := [] } options program ⟨held, []⟩
        display sound).mapState fun host => host.expecting scans :=
  Host.load_expecting (.start options.config world.fresh ⟨held, []⟩ display
    sound) scans world.fresh program

/-- Before its first scan a session does not depend on what is waiting. -/
theorem prepare_hearing :
    prepare (world.hearing scans) options sound closeSound =
      match prepare (world.hearing []) options sound closeSound with
      | .refused report => .refused report
      | .ready host before => .ready (host.expecting scans) before := by
  simp only [prepare, World.hearing]
  cases Rom.load world.files options.path with
  | error error => rfl
  | ok program =>
  cases works : world.keyboard.works with
  | false => simp only [Keyboard.open_of_fails works]
  | true =>
  simp only [Keyboard.open_of_works works]
  cases (TerminalDisplay.open? world.screen (title options.path)).result with
  | error error => rfl
  | ok display =>
  simp only [loading_hearing world options sound scans]
  cases loaded : (loading { world with waiting := [] } options program
      ⟨.replicate 16 0, []⟩ display sound).result with
  | error error =>
      simp only [Activity.mapState, loaded]
      exact congrArg Beginning.refused
        (conclude_expecting ⟨_, _, _⟩ scans _ closeSound)
  | ok value => simp only [Activity.mapState, loaded]

/-! ## Going on -/

/-- What has happened before can be told before or behind the rest. -/
theorem through_after (progress : Progress σ) (earlier : List Event) :
    (progress.after earlier).through name closeSound scans =
      (progress.through name closeSound scans).after earlier := by
  cases progress with
  | ended report => cases scans <;> rfl
  | playing host completed trace =>
      cases scans with
      | nil => rfl
      | cons now later => exact (after_after _ earlier trace).symm

theorem proceed_after (run : FrameRun (Host Keyboard TerminalDisplay σ))
    (earlier : List Event) :
    (proceed name closeSound run).after earlier =
      proceed name closeSound { run with trace := earlier ++ run.trace } := by
  rw [proceed, proceed]
  split
  · rfl
  · have report := conclude_after
      { Host.windUp run with trace := run.trace ++ (Host.windUp run).trace }
      earlier name closeSound
    rw [← List.append_assoc] at report
    exact congrArg Progress.ended report.symm

/-! ## What a session has come to -/

/-- The first frames of every session that begins with these scans. -/
structure Begins (world : World) (options : Options) (sound : σ)
    (closeSound : σ → List Emission) (scans : List (List Arrival))
    (run : FrameRun (Host Keyboard TerminalDisplay σ)) : Prop where
  /-- They are the same whatever is waiting later. -/
  whole : ∀ later, ∃ begun before frames,
    prepare (world.hearing (scans ++ later)) options sound closeSound =
        .ready begun before ∧
      begun.runFrames scans.length =
        ⟨run.completed, run.ending, run.host.expecting later, frames⟩ ∧
      run.trace = before ++ Host.announcement run.host.config ++ frames
  /-- If another one may follow, each of them was completed. -/
  counted : run.ending = .limit → run.completed = scans.length
  /-- If another one may follow, nothing is waiting any more. -/
  idle : run.ending = .limit → run.host.input.waiting = []
  /-- There are no more of them than there may be. -/
  allowed : ∀ limit, run.host.config.maxFrames = some limit →
    scans.length ≤ limit.toNat

/--
What a session has come to after these scans agrees with the sessions that
begin with them.
-/
inductive Agrees (world : World) (options : Options) (sound : σ)
    (closeSound : σ → List Emission) (scans : List (List Arrival)) :
    Progress σ → Prop where
  /-- Their first frames are made, and another one is allowed. -/
  | playing {host : Host Keyboard TerminalDisplay σ} {completed : Nat}
      {trace : List Event}
      (begins : Begins world options sound closeSound scans
        ⟨completed, .limit, host, trace⟩)
      (another : host.config.maxFrames.map UInt64.toNat ≠ some completed) :
      Agrees world options sound closeSound scans
        (.playing host completed trace)
  /-- They have this report, however long they are watched. -/
  | ended {report : Report}
      (whole : ∀ later patience, scans.length ≤ patience →
        runOn? patience (world.hearing (scans ++ later)) options sound
          closeSound = some report) :
      Agrees world options sound closeSound scans (.ended report)

variable {world : World} {options : Options} {sound : σ}
  {scans : List (List Arrival)}

/-- Frames that may be the last ones have the report of the session. -/
theorem Begins.runOn {run : FrameRun (Host Keyboard TerminalDisplay σ)}
    (begins : Begins world options sound closeSound scans run)
    (ended : run.ending ≠ .limit ∨
      run.host.config.maxFrames.map UInt64.toNat = some run.completed)
    (later : List (List Arrival)) {patience : Nat}
    (watched : scans.length ≤ patience) :
    runOn? patience (world.hearing (scans ++ later)) options sound
        closeSound =
      some (conclude (title options.path) { Host.windUp run with
        trace := run.trace ++ (Host.windUp run).trace } closeSound) := by
  obtain ⟨begun, before, frames, prepared, made, trace_eq⟩ :=
    begins.whole later
  have settings : run.host.config = begun.config := by
    have kept := begun.config_runFrames scans.length
    rw [made] at kept
    exact kept
  have allowed : scans.length ≤ Host.frameBound begun.config patience := by
    rw [Host.frameBound, ← settings]
    cases limited : run.host.config.maxFrames with
    | none => exact watched
    | some limit => exact begins.allowed limit limited
  have ran : begun.mainLoop? patience =
      some (Host.finish (begun.runFrames scans.length)) := by
    apply Host.mainLoop_of_runFrames allowed
    rw [made, ← settings]
    by_cases goesOn : run.ending = .limit
    · rw [begins.counted goesOn] at ended
      exact ended
    · exact .inl goesOn
  rw [runOn_of_ready prepared, ran, made, Option.map_some, Host.finish,
    Host.windUp_expecting, trace_eq]
  -- The two runs differ in their keyboards only, which no report tells.
  have report := conclude_expecting
    { Host.windUp run with
      trace := before ++ (Host.announcement run.host.config ++ frames ++
        (Host.windUp run).trace) }
    later (title options.path) closeSound
  refine congrArg some (report.trans ?_)
  simp only [List.append_assoc]

/-- What follows from these frames is what the session has come to. -/
theorem Begins.proceed {run : FrameRun (Host Keyboard TerminalDisplay σ)}
    (begins : Begins world options sound closeSound scans run) :
    Agrees world options sound closeSound scans
      (proceed (title options.path) closeSound run) := by
  rw [Session.proceed]
  split
  next another =>
    obtain ⟨goesOn, another⟩ := another
    obtain ⟨completed, ending, host, trace⟩ := run
    cases goesOn
    exact .playing begins another
  next last =>
    refine .ended fun later patience watched => begins.runOn ?_ later watched
    rw [Classical.not_and_iff_not_or_not, not_not] at last
    exact last

theorem Begins.lt_limit {host : Host Keyboard TerminalDisplay σ}
    {completed : Nat} {trace : List Event} {limit : UInt64}
    (begins : Begins world options sound closeSound scans
      ⟨completed, .limit, host, trace⟩)
    (another : host.config.maxFrames.map UInt64.toNat ≠ some completed)
    (limited : host.config.maxFrames = some limit) :
    scans.length < limit.toNat := by
  have counted : completed = scans.length := begins.counted rfl
  rw [limited, counted] at another
  refine Nat.lt_of_le_of_ne (begins.allowed limit limited) ?_
  exact fun reached => another (congrArg some reached.symm)

/-- One more frame is made at one more scan. -/
theorem Begins.resume {host : Host Keyboard TerminalDisplay σ}
    {completed : Nat} {trace : List Event}
    (begins : Begins world options sound closeSound scans
      ⟨completed, .limit, host, trace⟩)
    (another : host.config.maxFrames.map UInt64.toNat ≠ some completed)
    (now : List Arrival) :
    let next := (host.expecting [now]).runFrames 1
    Begins world options sound closeSound (scans ++ [now])
      ⟨completed + next.completed, next.ending, next.host,
        trace ++ next.trace⟩ := by
  intro next
  have idle : host.input.waiting = [] := begins.idle rfl
  have counted : completed = scans.length := begins.counted rfl
  have waiting : (host.expecting [now]).input.waiting = [now] :=
    congrArg (· ++ [now]) idle
  have due : (host.expecting [now]).input.waiting ≠ [] := by
    rw [waiting]
    exact List.cons_ne_nil now []
  have settings : next.host.config = host.config :=
    (host.expecting [now]).config_runFrames 1
  have further := (host.expecting [now]).runFrames_one_of_limit
  refine ⟨fun later => ?_, fun goesOn => ?_, fun goesOn => ?_, ?_⟩
  · obtain ⟨begun, before, frames, prepared, made, trace_eq⟩ :=
      begins.whole (now :: later)
    rw [List.append_cons] at prepared
    refine ⟨begun, before, frames ++ next.trace, prepared, ?_, ?_⟩
    · have frame :=
        (host.expecting [now]).runFrames_one_expecting later due
      rw [← host.expecting_append] at frame
      rw [List.length_append, List.length_singleton, Host.runFrames_add, made]
      exact congrArg (fun run : FrameRun (Host Keyboard TerminalDisplay σ) =>
        (⟨completed + run.completed, run.ending, run.host,
          frames ++ run.trace⟩ : FrameRun _)) frame
    · dsimp only at trace_eq ⊢
      rw [settings, trace_eq, List.append_assoc]
  · rw [(further goesOn).1, counted, List.length_append]
    rfl
  · exact (further goesOn).2.trans (congrArg List.tail waiting)
  · intro limit limited
    rw [settings] at limited
    rw [List.length_append]
    exact begins.lt_limit another limited

theorem waiting_prepare {host : Host Keyboard TerminalDisplay σ}
    {before : List Event}
    (prepared : prepare world options sound closeSound =
      .ready host before) :
    host.input.waiting = world.waiting := by
  obtain ⟨program, keyboard, display, ⟨-, taken, -⟩, rfl⟩ :=
    loaded_of_prepare prepared
  rw [Keyboard.open_of_works (Keyboard.works_of_ok taken)] at taken
  cases taken
  rw [loading, Host.input_load]
  rfl

/-- A session begins with no frames. -/
theorem Begins.start {host : Host Keyboard TerminalDisplay σ}
    {before : List Event}
    (prepared : prepare (world.hearing []) options sound closeSound =
      .ready host before) :
    Begins world options sound closeSound []
      ⟨0, .limit, host, before ++ Host.announcement host.config⟩ where
  whole later := by
    refine ⟨host.expecting later, before, [], ?_, rfl, ?_⟩
    · rw [List.nil_append, prepare_hearing, prepared]
    · rw [List.append_nil]
  counted _ := rfl
  idle _ := waiting_prepare prepared
  allowed _ _ := Nat.zero_le _

/-- A session begins without a frame. -/
theorem agrees_start (world : World) (options : Options) (sound : σ)
    (closeSound : σ → List Emission) :
    Agrees world options sound closeSound []
      (start (world.hearing []) options sound closeSound) := by
  rw [start]
  cases prepared : prepare (world.hearing []) options sound closeSound with
  | refused report =>
      refine .ended fun later patience _ => runOn_of_refused ?_
      rw [List.nil_append, prepare_hearing, prepared]
  | ready host before => exact (Begins.start prepared).proceed

theorem Agrees.resume {host : Host Keyboard TerminalDisplay σ}
    {completed : Nat} {trace : List Event}
    (agrees : Agrees world options sound closeSound scans
      (.playing host completed trace))
    (now : List Arrival) :
    Agrees world options sound closeSound (scans ++ [now])
      ((resume (title options.path) closeSound host completed now).after
        trace) := by
  cases agrees with
  | playing begins another =>
      rw [Session.resume, proceed_after]
      exact (begins.resume another now).proceed

/-- However a session is cut, what it has come to agrees with it. -/
theorem Agrees.through {progress : Progress σ}
    (agrees : Agrees world options sound closeSound scans progress)
    (later : List (List Arrival)) :
    Agrees world options sound closeSound (scans ++ later)
      (progress.through (title options.path) closeSound later) := by
  induction later generalizing scans progress with
  | nil =>
      rw [List.append_nil]
      cases progress <;> exact agrees
  | cons now later further =>
      cases agrees with
      | playing begins another =>
          rw [List.append_cons, Progress.through, ← through_after]
          exact further (Agrees.resume (.playing begins another) now)
      | ended whole =>
          refine .ended fun rest patience watched => ?_
          rw [List.append_assoc]
          refine whole _ patience (Nat.le_trans ?_ watched)
          rw [List.length_append]
          exact Nat.le_add_right _ _

/-- What a session has come to after some scans agrees with every whole. -/
theorem agrees_through (world : World) (options : Options) (sound : σ)
    (closeSound : σ → List Emission) (scans : List (List Arrival)) :
    Agrees world options sound closeSound scans
      ((start (world.hearing []) options sound closeSound).through
        (title options.path) closeSound scans) :=
  (agrees_start world options sound closeSound).through scans

/-- A session that goes on behind these scans needs more of them. -/
theorem Begins.lt_frameBound {host : Host Keyboard TerminalDisplay σ}
    {completed patience : Nat} {trace : List Event} {report : Report}
    (begins : Begins world options sound closeSound scans
      ⟨completed, .limit, host, trace⟩)
    (another : host.config.maxFrames.map UInt64.toNat ≠ some completed)
    (ran : runOn? patience (world.hearing scans) options sound closeSound =
      some report) :
    scans.length < Host.frameBound options.config patience := by
  obtain ⟨begun, before, frames, prepared, made, -⟩ := begins.whole []
  rw [List.append_nil] at prepared
  have settings : host.config = options.config := by
    have kept := begun.config_runFrames scans.length
    rw [made] at kept
    exact kept.trans (config_prepare prepared)
  rw [runOn_of_ready prepared] at ran
  obtain ⟨_, ended, -⟩ := Option.map_eq_some_iff.mp ran
  obtain ⟨-, ended⟩ := Host.mainLoop_eq_some_iff.mp ended
  rw [config_prepare prepared, ← settings] at ended
  rw [Host.frameBound, ← settings]
  cases limited : host.config.maxFrames with
  | none =>
      by_contra fewer
      obtain ⟨further, watched⟩ : ∃ further,
          scans.length = patience + further :=
        Nat.exists_eq_add_of_le (Nat.not_lt.mp fewer)
      have same := Host.runFrames_of_ended (ended limited) further
      rw [← watched, made] at same
      exact ended limited (congrArg FrameRun.ending same).symm
  | some limit => exact begins.lt_limit another limited

/-- A session that ends comes to its report with the scans that it needs. -/
theorem through_eq_ended {patience : Nat} {report : Report}
    (ran : runOn? patience (world.hearing scans) options sound closeSound =
      some report)
    (heard : Host.frameBound options.config patience ≤ scans.length) :
    (start (world.hearing []) options sound closeSound).through
      (title options.path) closeSound scans = .ended report := by
  have agrees := agrees_through world options sound closeSound scans
  cases held : (start (world.hearing []) options sound closeSound).through
      (title options.path) closeSound scans with
  | ended early =>
      rw [held] at agrees
      cases agrees with
      | ended whole =>
          have same := whole [] (max patience scans.length)
            (Nat.le_max_right _ _)
          rw [List.append_nil,
            runOn_of_le ran (Nat.le_max_left _ _)] at same
          cases same
          rfl
  | playing host completed trace =>
      rw [held] at agrees
      cases agrees with
      | playing begins another =>
          exact absurd heard (Nat.not_le.mpr (begins.lt_frameBound another ran))

end Session

end Chip8
