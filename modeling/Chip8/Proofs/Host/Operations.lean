import Chip8.Proofs.Host.Course
import Chip8.Proofs.Host.Reload
import Chip8.Proofs.Keypad
import Chip8.Proofs.Machine.Timers

/-!
# What a host does to its machine

Between two loads a host does nothing to its machine but perform operations: it
sets the keys as they were scanned, pauses the machine or lets it go on, and
makes steps and ticks.  `operationsOfAll` lists them for whatever is asked of
the host.  Performing them leads to the machine that the host ends up with, and
what the machine tells on the way is what the trace of the host shows of it.
What is known of all runs of a machine is therefore known of the machine of a
host.

`Performs` says this of a part of what a host does.  It is put together from the
parts of a frame to whole lists of requests.
-/

namespace Chip8

/-- Whether a record is told by a machine and not by its host. -/
def LogRecord.isOfMachine : LogRecord → Bool
  | .fetched _ _ _ | .machineCodeIgnored _ _ | .unknownWord _ _ => true
  | .waiting _ _ | .released _ _ | .paused _ | .resumed _ => true
  | _ => false

/-- What a machine tells in an event. -/
def Event.machineRecord? : Event → Option LogRecord
  | .told telling => if telling.isOfMachine then some telling else none
  | _ => none

/-- What a machine tells in a trace. -/
def machineRecords (trace : List Event) : List LogRecord :=
  trace.filterMap Event.machineRecord?

@[simp]
theorem machineRecords_append (earlier later : List Event) :
    machineRecords (earlier ++ later) =
      machineRecords earlier ++ machineRecords later :=
  List.filterMap_append

theorem machineRecords_map {α : Type} {event : α → Event}
    (silent : ∀ item, (event item).machineRecord? = none) (items : List α) :
    machineRecords (items.map event) = [] := by
  rw [machineRecords, List.filterMap_map, List.filterMap_eq_nil_iff]
  exact fun item _ => silent item

theorem machineRecords_told {records : List LogRecord}
    (own : ∀ telling ∈ records, telling.isOfMachine) :
    machineRecords (records.map Event.told) = records := by
  induction records with
  | nil => rfl
  | cons telling rest ih =>
      have here : (Event.told telling).machineRecord? = some telling :=
        if_pos (own telling List.mem_cons_self)
      rw [List.map_cons, machineRecords, List.filterMap_cons_some here]
      apply congrArg (telling :: ·)
      exact ih fun later member => own later (List.mem_cons_of_mem _ member)

/-! ## Operations -/

/-- The operations that set keys as they are on a keypad. -/
def Keypad.settings (keypad : Keypad) (keys : List Nibble) : List Operation :=
  keys.map fun key => .setKey key.toByte (keypad.isPressed key.toByte)

/-- The steps that are made of so many at most. -/
def Machine.stepsUpTo (machine : Machine) : (limit : Nat) → List Operation
  | 0 => []
  | limit + 1 =>
      .step ::
        match machine.step.result with
        | .ok outcome =>
            if outcome.madeProgress then machine.step.state.stepsUpTo limit
            else []
        | .error _ => []

namespace Host

variable {ι δ σ : Type}

/-- How a command is obeyed. -/
def operationsOfObey (host : Host ι δ σ) : Option Command → List Operation
  | some .togglePause => if host.machine.paused then [.resume] else [.pause]
  | _ => []

/-- The steps of a frame and, if none failed, its tick. -/
def operationsOfRunFrame (host : Host ι δ σ) : List Operation :=
  let cycles := host.config.cyclesPerFrame.toNat
  host.machine.stepsUpTo cycles ++
    match (host.machine.stepUpTo cycles).result with
    | .ok () => [.tick]
    | .error _ => []

/-- What is done after a scan that gave a command. -/
def operationsOfCommand (host : Host ι δ σ) (command : Option Command) :
    List Operation :=
  if command = some .quit then []
  else
    host.operationsOfObey command ++
      (host.obey command).state.operationsOfRunFrame

variable [InputDevice ι] [DisplayDevice δ] [SoundDevice σ]

/-- What is done in a frame; the scan sets all the keys. -/
def operationsOfFrame (host : Host ι δ σ) : List Operation :=
  let scanned := host.scan.state
  scanned.machine.keypad.settings (List.finRange 16) ++
    match host.scan.result with
    | .ok command => scanned.operationsOfCommand command
    | .error _ => []

/-- What is done in the frames of a run. -/
def operationsOfFrames (host : Host ι δ σ) : (limit : Nat) → List Operation
  | 0 => []
  | limit + 1 =>
      host.operationsOfFrame ++
        match host.frame.result with
        | .ok true => host.frame.state.operationsOfFrames limit
        | .ok false => []
        | .error _ => []

/-- What is done to meet a request; a load that is refused does nothing. -/
def operationsOf (host : Host ι δ σ) : Request → List Operation
  | .load _ _ => []
  | .runFrame => host.operationsOfRunFrame
  | .mainLoop patience =>
      host.operationsOfFrames (frameBound host.config patience)

/-- What is done to meet requests. -/
def operationsOfAll (host : Host ι δ σ) : List Request → List Operation
  | [] => []
  | request :: rest =>
      host.operationsOf request ++
        match host.meet? request with
        | some made => made.state.operationsOfAll rest
        | none => []

end Host

namespace Machine

/--
A machine performs operations that start no sequence of random bytes, and
becomes another one; what it tells is what a trace shows of it.
-/
structure Performs (machine : Machine) (operations : List Operation)
    (after : Machine) (trace : List Event) : Prop where
  after_eq : after = machine.after operations
  records_eq : machineRecords trace = machine.records operations
  unseeded : Unseeded operations

variable {machine middle after : Machine} {operations further : List Operation}
  {earlier later : List Event}

theorem performs_nothing (silent : machineRecords earlier = []) :
    Performs machine [] machine earlier :=
  ⟨rfl, silent, unseeded_nil⟩

theorem Performs.append (first : Performs machine operations middle earlier)
    (second : Performs middle further after later) :
    Performs machine (operations ++ further) after (earlier ++ later) where
  after_eq := by
    rw [after_append, ← first.after_eq]
    exact second.after_eq
  records_eq := by
    rw [machineRecords_append, records_append, first.records_eq,
      second.records_eq, ← first.after_eq]
  unseeded := unseeded_append.mpr ⟨first.unseeded, second.unseeded⟩

/-! ## Keys -/

/-- A code is set as on the keypad once its key has had its turn. -/
theorem isPressed_after_settings (keypad : Keypad) {keys : List Nibble}
    {code : UInt8}
    (set : machine.keypad.isPressed code = keypad.isPressed code ∨
      ∃ key ∈ keys, key.toByte = code) :
    (machine.after (keypad.settings keys)).keypad.isPressed code =
      keypad.isPressed code := by
  induction keys generalizing machine with
  | nil =>
      rcases set with same | ⟨key, member, -⟩
      · exact same
      · cases member
  | cons key rest ih =>
      apply ih
      show (machine.keypad.setKey _ _).isPressed code = _ ∨ _
      rw [Keypad.isPressed_setKey]
      split
      · rename_i turn
        rw [turn.1]
        exact .inl rfl
      · rename_i otherwise
        rcases set with same | ⟨other, member, rfl⟩
        · exact .inl same
        · rcases List.mem_cons.mp member with rfl | later
          -- It is the turn of this code after all, as every key has a latch.
          · refine absurd ⟨rfl, ?_⟩ otherwise
            rw [Nibble.toNat_toByte]
            exact other.val_lt
          · exact .inr ⟨other, later, rfl⟩

/-- Setting keys changes nothing but the keypad and tells nothing. -/
theorem after_settings (machine : Machine) (keypad : Keypad)
    (keys : List Nibble) :
    machine.after (keypad.settings keys) =
        { machine with
          keypad := (machine.after (keypad.settings keys)).keypad } ∧
      machine.records (keypad.settings keys) = [] := by
  induction keys generalizing machine with
  | nil => exact ⟨rfl, rfl⟩
  | cons key rest ih => exact ih _

/-- Setting all the keys makes the keypad that of a scan. -/
theorem performs_settings (machine : Machine) (keypad : Keypad)
    (silent : machineRecords earlier = []) :
    Performs machine (keypad.settings (List.finRange 16))
      { machine with keypad } earlier where
  after_eq := by
    have whole : (machine.after (keypad.settings (List.finRange 16))).keypad =
        keypad := by
      apply Keypad.ext_isPressed
      intro code
      apply isPressed_after_settings
      -- A code above 15 has no key to set, and is down on no keypad.
      rcases Nat.lt_or_ge code.toNat 16 with small | large
      · refine .inr ⟨⟨code.toNat, small⟩, List.mem_finRange _, ?_⟩
        apply UInt8.toNat.inj
        rw [Nibble.toNat_toByte]
      · left
        rw [Keypad.isPressed_of_no_key large, Keypad.isPressed_of_no_key large]
    rw [(machine.after_settings keypad _).1, whole]
  records_eq := silent.trans (machine.after_settings keypad _).2.symm
  unseeded := by
    intro seed member
    rcases List.mem_map.mp member with ⟨key, -, same⟩
    cases same

/-! ## Steps -/

/-- What a machine tells in an operation is of a machine. -/
theorem isOfMachine_trace (machine : Machine) (operation : Operation) :
    ∀ telling ∈ (operation.perform machine).trace, telling.isOfMachine := by
  cases operation with
  | step =>
      have fetching : ∀ telling ∈ machine.fetchRecords,
          telling.isOfMachine := by
        intro telling member
        rcases List.mem_cons.mp member with rfl | told
        · rfl
        · cases instruction : machine.nextInstruction with
          | machineCode | waitKey | unknown =>
              rw [instruction] at told
              cases List.mem_singleton.mp told
              rfl
          | _ =>
              rw [instruction] at told
              cases told
      show ∀ telling ∈ machine.step.trace, _
      cases machine.stepCase with
      | paused halted made => rw [made]; exact nofun
      | waiting x running wait noKey made => rw [made]; exact nofun
      | received x key running wait lowest made =>
          rw [made]
          intro telling member
          cases List.mem_singleton.mp member
          rfl
      | unfetched running idle outside made => rw [made]; exact nofun
      | failed error running idle inside fault made =>
          rw [made]
          exact fetching
      | executed running idle inside sound made =>
          rw [made]
          exact fetching
  | pause | resume =>
      intro telling member
      cases List.mem_singleton.mp member
      rfl
  | _ => exact nofun

theorem isOfMachine_records (machine : Machine) (operations : List Operation) :
    ∀ telling ∈ machine.records operations, telling.isOfMachine := by
  induction operations generalizing machine with
  | nil => exact nofun
  | cons operation rest ih =>
      intro telling member
      rcases List.mem_append.mp member with here | later
      · exact machine.isOfMachine_trace operation telling here
      · exact ih _ telling later

/-- What a machine does as operations is told in the trace of its host. -/
theorem performs_of_records (after_eq : after = machine.after operations)
    {records : List LogRecord} (told : records = machine.records operations)
    (unseeded : Unseeded operations) :
    Performs machine operations after (records.map Event.told) where
  after_eq := after_eq
  records_eq := by
    rw [told]
    exact machineRecords_told (machine.isOfMachine_records operations)
  unseeded := unseeded

/-- The steps of a frame are those that it lists. -/
theorem after_stepsUpTo (machine : Machine) (limit : Nat) :
    (machine.stepUpTo limit).state =
        machine.after (machine.stepsUpTo limit) ∧
      (machine.stepUpTo limit).trace =
        machine.records (machine.stepsUpTo limit) ∧
      Unseeded (machine.stepsUpTo limit) := by
  induction limit generalizing machine with
  | zero => exact ⟨rfl, rfl, unseeded_nil⟩
  | succ limit ih =>
      have first : Unseeded [.step] := unseeded_singleton (by simp)
      rw [stepUpTo, stepsUpTo]
      cases result : machine.step.result with
      | error error =>
          rw [Activity.andThen_of_error result]
          exact ⟨rfl, (List.append_nil _).symm, first⟩
      | ok outcome =>
          rw [Activity.andThen_of_ok result]
          cases progress : outcome.madeProgress with
          | false =>
              simp only [progress, Bool.false_eq_true, if_false]
              exact ⟨rfl, rfl, first⟩
          | true =>
              simp only [progress, if_true]
              rcases ih machine.step.state with ⟨after, records, unseeded⟩
              exact ⟨after, congrArg (_ ++ ·) records,
                unseeded_append.mpr ⟨first, unseeded⟩⟩

end Machine

namespace Host

open Machine

variable {ι δ σ α β : Type} {host : Host ι δ σ}
  {operations further : List Operation}

/-! ## Activities -/

theorem performs_andThen_of_ok {made : Activity Event Error (Host ι δ σ) α}
    {following : α → Host ι δ σ → Activity Event Error (Host ι δ σ) β}
    {value : α} (succeeded : made.result = .ok value)
    (first : Performs host.machine operations made.state.machine made.trace)
    (second : Performs made.state.machine further
      (following value made.state).state.machine
      (following value made.state).trace) :
    Performs host.machine (operations ++ further)
      (made.andThen following).state.machine
      (made.andThen following).trace := by
  rw [Activity.andThen_of_ok succeeded]
  exact first.append second

theorem performs_andThen_of_error {made : Activity Event Error (Host ι δ σ) α}
    {following : α → Host ι δ σ → Activity Event Error (Host ι δ σ) β}
    {error : Error} (failed : made.result = .error error)
    (first : Performs host.machine operations made.state.machine made.trace) :
    Performs host.machine (operations ++ [])
      (made.andThen following).state.machine
      (made.andThen following).trace := by
  rw [Activity.andThen_of_error failed, List.append_nil]
  exact first

/-- What does nothing to the machine can follow without being listed. -/
theorem performs_andThen_quiet {made : Activity Event Error (Host ι δ σ) α}
    {following : α → Host ι δ σ → Activity Event Error (Host ι δ σ) β}
    (first : Performs host.machine operations made.state.machine made.trace)
    (quiet : ∀ value state, Performs (Host.machine state) []
      (following value state).state.machine (following value state).trace) :
    Performs host.machine operations (made.andThen following).state.machine
      (made.andThen following).trace := by
  rw [← List.append_nil operations]
  cases result : made.result with
  | error error => exact performs_andThen_of_error result first
  | ok value =>
      exact performs_andThen_of_ok result first (quiet value made.state)

/-! ## The parts of a frame -/

section Parts

variable (host : Host ι δ σ)

theorem performs_scan [InputDevice ι] :
    Performs host.machine
      (host.scan.state.machine.keypad.settings (List.finRange 16))
      host.scan.state.machine host.scan.trace := by
  have silent : machineRecords host.scan.trace = [] := by
    have emitted : ∀ items : List Emission,
        machineRecords (items.map Event.input) = [] :=
      machineRecords_map fun _ => rfl
    rw [scan]
    cases (InputDevice.scan host.input host.machine.keypad).result with
    | ok | error =>
        rw [machineRecords_append, emitted]
        rfl
  have scanned := performs_settings host.machine
    host.scan.state.machine.keypad silent
  rw [← scan_machine] at scanned
  exact scanned

theorem performs_obey (command : Option Command) :
    Performs host.machine (host.operationsOfObey command)
      (host.obey command).state.machine (host.obey command).trace := by
  cases command with
  | none => exact performs_nothing rfl
  | some command =>
      cases command with
      | quit => exact performs_nothing rfl
      | toggleMute => exact performs_nothing rfl
      | togglePause =>
          rw [operationsOfObey, obey]
          cases host.machine.paused with
          | true | false =>
              apply performs_of_records rfl rfl
              exact unseeded_singleton (by simp)

theorem performs_runFrame :
    Performs host.machine host.operationsOfRunFrame
      host.runFrame.state.machine host.runFrame.trace := by
  rcases host.machine.after_stepsUpTo host.config.cyclesPerFrame.toNat with
    ⟨after, records, unseeded⟩
  have steps := performs_of_records after records unseeded
  rw [operationsOfRunFrame, runFrame]
  cases result :
      (host.machine.stepUpTo host.config.cyclesPerFrame.toNat).result with
  | error error => exact performs_andThen_of_error result steps
  | ok value =>
      refine performs_andThen_of_ok result steps ?_
      apply performs_of_records rfl rfl
      exact unseeded_singleton (by simp)

theorem performs_updateSound [SoundDevice σ] :
    Performs host.machine [] host.updateSound.state.machine
      host.updateSound.trace := by
  have emitted : ∀ items : List Emission,
      machineRecords (items.map Event.sound) = [] :=
    machineRecords_map fun _ => rfl
  have silent : ∀ (host : Host ι δ σ)
      (made : Activity Emission SoundError σ Unit) (event : Bool → Event),
      (∀ succeeded, (event succeeded).machineRecord? = none) →
      machineRecords (host.afterSound made event).trace = [] := by
    intro host made event quiet
    rw [afterSound]
    cases made.result with
    | ok value =>
        rw [machineRecords_append, emitted]
        exact List.filterMap_cons_none (quiet true)
    | error error =>
        rw [machineRecords_append, emitted]
        exact List.filterMap_cons_none (quiet false)
  rw [host.updateSound_eq.2.1]
  apply performs_nothing
  rcases host.updateSound_cases with ⟨-, update⟩ | ⟨on, -, -, update⟩
  · rw [update]
    rfl
  · rw [update]
    exact silent _ _ _ fun _ => by cases on <;> rfl

theorem performs_present [DisplayDevice δ] :
    Performs host.machine [] host.present.state.machine
      host.present.trace := by
  have emitted : ∀ items : List Emission,
      machineRecords (items.map Event.display) = [] :=
    machineRecords_map fun _ => rfl
  rw [machine_present]
  apply performs_nothing
  rw [present]
  cases (DisplayDevice.draw host.display host.machine.frame).result with
  | ok | error =>
      rw [machineRecords_append, emitted]
      rfl

end Parts

/-! ## Frames and requests -/

variable [InputDevice ι] [DisplayDevice δ] [SoundDevice σ]

theorem performs_frame (host : Host ι δ σ) :
    Performs host.machine host.operationsOfFrame host.frame.state.machine
      host.frame.trace := by
  have scanned := host.performs_scan
  rw [operationsOfFrame, frame]
  cases result : host.scan.result with
  | error error => exact performs_andThen_of_error result scanned
  | ok command =>
      refine performs_andThen_of_ok result scanned ?_
      unfold operationsOfCommand
      by_cases quit : command = some .quit
      · simp only [if_pos quit]
        exact performs_nothing rfl
      · simp only [if_neg quit]
        generalize host.scan.state = scanned
        refine performs_andThen_of_ok (scanned.obey_eq command).1
          (scanned.performs_obey command) ?_
        -- The tone and the drawing leave the machine as the tick left it.
        refine performs_andThen_quiet (performs_runFrame _) fun _ ran => ?_
        refine performs_andThen_quiet ran.performs_updateSound
          fun _ sounded => ?_
        exact performs_andThen_quiet sounded.performs_present
          fun _ _ => performs_nothing rfl

theorem performs_runFrames (host : Host ι δ σ) (limit : Nat) :
    Performs host.machine (host.operationsOfFrames limit)
      (host.runFrames limit).host.machine (host.runFrames limit).trace := by
  induction limit generalizing host with
  | zero => exact performs_nothing rfl
  | succ limit ih =>
      have made := host.performs_frame
      rw [operationsOfFrames, runFrames]
      cases host.frame.result with
      | error error =>
          rw [List.append_nil]
          exact made
      | ok goesOn =>
          cases goesOn with
          | false =>
              rw [List.append_nil]
              exact made
          | true => exact made.append (ih host.frame.state)

/-- A load that is refused does nothing, so a request is what it lists. -/
theorem performs_courseOf (host : Host ι δ σ) {request : Request}
    (refused : ∀ fresh program, request = .load fresh program →
      Memory.programCapacity < program.length) :
    Performs host.machine (host.operationsOf request)
      ((host.courseOf request).getLastD host.machine)
      (host.seenOf request) := by
  cases request with
  | load fresh program =>
      rw [courseOf, seenOf, host.load_of_tooLarge fresh (refused _ _ rfl)]
      exact performs_nothing rfl
  | runFrame =>
      rw [courseOf, getLastD_courseOfRunFrame]
      exact host.performs_runFrame
  | mainLoop patience =>
      rw [courseOf, getLastD_courseOfFrames]
      exact host.performs_runFrames _

/--
Whatever is asked of a host, as long as no program is loaded, its machine
performs the operations that are listed for it.
-/
theorem performs_courseOfAll (host : Host ι δ σ) {requests : List Request}
    (refused : ∀ fresh program, .load fresh program ∈ requests →
      Memory.programCapacity < program.length) :
    Performs host.machine (host.operationsOfAll requests)
      ((host.courseOfAll requests).getLastD host.machine)
      (host.seenOfAll requests) := by
  induction requests generalizing host with
  | nil => exact performs_nothing rfl
  | cons request rest ih =>
      have first := host.performs_courseOf fun fresh program same =>
        refused fresh program (same ▸ List.mem_cons_self)
      rw [operationsOfAll, courseOfAll, seenOfAll]
      cases met : host.meet? request with
      | none =>
          simp only [List.append_nil]
          exact first
      | some made =>
          rw [getLastD_courseOf met] at first
          have second := ih made.state fun fresh program member =>
            refused fresh program (List.mem_cons_of_mem _ member)
          rw [getLastD_append, getLastD_courseOf met]
          exact first.append second

end Host

end Chip8
