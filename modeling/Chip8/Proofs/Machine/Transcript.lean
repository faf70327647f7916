import Chip8.Proofs.Machine.StepCases

/-!
# The log as a transcript of a run

What a run tells can be read back.  Every step that fetches a word tells the
word, where it was fetched from and what it means, whether or not it can be
executed, and nothing else is told of that level.  A warning stands for a word
that is no instruction, and a wait for a key for an instruction Fx0A, each of
them right behind the fetch.  Between the beginning of a wait and its end no
word is fetched, and the end names the register of the beginning.

The records of a level are found by one argument from those of a single step.
The end of a wait is found by an induction on the run, whose invariant is that
the machine still waits.
-/

namespace Chip8

namespace LogRecord

/-- Whether a record tells that a wait for a key began or ended. -/
def isKeyWait : LogRecord → Bool
  | .waiting _ _ => true
  | .released _ _ => true
  | _ => false

/-- A record of neither a wait for a key nor a fetched word. -/
def Aside (record : LogRecord) : Prop :=
  record.isKeyWait = false ∧ record.level ≠ .trace

end LogRecord

namespace Machine

/-- The machines that make the steps of a run, in order. -/
def stepping (machine : Machine) : List Operation → List Machine
  | [] => []
  | operation :: rest =>
      (if operation = .step then [machine] else []) ++
        (operation.perform machine).state.stepping rest

/-- The record of the word that a step fetches. -/
def fetch? (machine : Machine) : Option LogRecord :=
  if machine.paused = false ∧ machine.keyWait = none then
    match machine.memory.readWord machine.programCounter with
    | .ok word =>
        some (.fetched machine.programCounter word (.decode word))
    | .error _ => none
  else none

/-- The record of the word that a step executes although it is unknown. -/
def skippedWord? (machine : Machine) : Option LogRecord :=
  match machine.step.result with
  | .ok (.executed (.unknown word)) =>
      some (.unknownWord machine.programCounter word)
  | _ => none

/--
The step of the machine finds it paused, or waiting for a key, or it has to
fetch a word that is not inside of memory.
-/
inductive StepsInVain (machine : Machine) : Prop where
  | paused (gave : machine.step.result = .ok .paused)
  | waiting (gave : machine.step.result = .ok .waitingForKey)
  | unfetched (error : Error)
      (running : machine.paused = false)
      (idle : machine.keyWait = none)
      (outside : machine.memory.readWord machine.programCounter = .error error)

variable {machine : Machine} {operations : List Operation}

/-! ## One operation -/

theorem fetch?_of_paused (halted : machine.paused = true) :
    machine.fetch? = none := by
  simp [fetch?, halted]

theorem fetch?_of_waiting {x : Nibble} (wait : machine.keyWait = some x) :
    machine.fetch? = none := by
  simp [fetch?, wait]

theorem fetch?_of_outside
    (outside : Memory.size < machine.programCounter.toNat + 2) :
    machine.fetch? = none := by
  simp [fetch?, Memory.readWord_outside outside]

theorem fetch?_of_inside (running : machine.paused = false)
    (idle : machine.keyWait = none)
    (inside : machine.programCounter.toNat + 2 ≤ Memory.size) :
    machine.fetch? =
      some (.fetched machine.programCounter machine.nextWord
        machine.nextInstruction) := by
  simp [fetch?, running, idle, Memory.readWord_inside inside, nextWord,
    nextInstruction]

theorem filter_trace_fetchRecords (machine : Machine) :
    machine.fetchRecords.filter (fun record => record.level = .trace) =
      [.fetched machine.programCounter machine.nextWord
        machine.nextInstruction] := by
  cases decoded : machine.nextInstruction <;>
    simp [fetchRecords, decoded, Instruction.records, LogRecord.level]

theorem filter_trace_step (machine : Machine) :
    machine.step.trace.filter (fun record => record.level = .trace) =
      machine.fetch?.toList := by
  cases machine.stepCase with
  | paused halted made =>
      rw [made, fetch?_of_paused halted]
      rfl
  | waiting x running wait noKey made =>
      rw [made, fetch?_of_waiting wait]
      rfl
  | received x key running wait lowest made =>
      rw [made, fetch?_of_waiting wait]
      rfl
  | unfetched running idle outside made =>
      rw [made, fetch?_of_outside outside]
      rfl
  | failed error running idle inside fault made =>
      rw [made, fetch?_of_inside running idle inside]
      exact filter_trace_fetchRecords machine
  | executed running idle inside sound made =>
      rw [made, fetch?_of_inside running idle inside]
      exact filter_trace_fetchRecords machine

theorem filter_warn_step (machine : Machine) :
    machine.step.trace.filter (fun record => record.level = .warn) =
      machine.skippedWord?.toList := by
  cases machine.stepCase with
  | paused halted made => simp [skippedWord?, made, Activity.done]
  | waiting x running wait noKey made =>
      simp [skippedWord?, made, Activity.done]
  | received x key running wait lowest made =>
      simp [skippedWord?, made, LogRecord.level]
  | unfetched running idle outside made => simp [skippedWord?, made]
  | failed error running idle inside fault made =>
      -- An unknown word can always be executed.
      cases decoded : machine.nextInstruction <;>
        simp_all [skippedWord?, fetchRecords, fault?, Instruction.records,
          LogRecord.level]
  | executed running idle inside sound made =>
      cases decoded : machine.nextInstruction <;>
        simp [skippedWord?, made, decoded, fetchRecords, Instruction.records,
          LogRecord.level]

theorem told_by_other {operation : Operation} (other : operation ≠ .step)
    {record : LogRecord} (told : record ∈ (operation.perform machine).trace) :
    ∃ pc, record = .paused pc ∨ record = .resumed pc := by
  cases operation with
  | step => exact absurd rfl other
  | pause => exact ⟨_, .inl (List.mem_singleton.mp told)⟩
  | resume => exact ⟨_, .inr (List.mem_singleton.mp told)⟩
  | _ => exact absurd told List.not_mem_nil

theorem keyWait_of_other {operation : Operation} (other : operation ≠ .step)
    (machine : Machine) :
    (operation.perform machine).state.keyWait = machine.keyWait := by
  cases operation with
  | step => exact absurd rfl other
  | tick => exact tick_keeps keyWait (fun _ _ _ => rfl) machine
  | _ => rfl

/-! ## The records of one level -/

/-- What a run tells of a level is what its steps tell of it. -/
theorem filter_records {level : LogLevel} {told : Machine → Option LogRecord}
    (worthy : level ≠ .debug)
    (ofStep : ∀ machine : Machine,
      machine.step.trace.filter (fun record => record.level = level) =
        (told machine).toList)
    (machine : Machine) (operations : List Operation) :
    (machine.records operations).filter
        (fun record => record.level = level) =
      (machine.stepping operations).filterMap told := by
  induction operations generalizing machine with
  | nil => rfl
  | cons operation rest ih =>
      rw [records_cons, List.filter_append, ih, stepping,
        List.filterMap_append]
      congr 1
      by_cases same : operation = .step
      · subst same
        rw [if_pos rfl]
        have own := ofStep machine
        cases expected : told machine <;>
          simpa [Operation.perform, expected] using own
      · -- Pausing and resuming are told of, but on another level.
        rw [if_neg same, List.filterMap_nil, List.filter_eq_nil_iff]
        intro record member
        have debug : record.level = .debug := by
          rcases told_by_other same member with ⟨pc, rfl | rfl⟩ <;> rfl
        simpa [debug] using worthy.symm

/-! ## Where a record comes from -/

theorem split_of_append {α : Type} {first second before after : List α}
    {item : α} (split : first ++ second = before ++ item :: after) :
    (∃ left, before = first ++ left ∧ second = left ++ item :: after) ∨
      ∃ right, first = before ++ item :: right ∧ after = right ++ second := by
  rcases List.append_eq_append_iff.mp split with
    ⟨left, before_eq, second_eq⟩ | ⟨right, first_eq, after_eq⟩
  · exact .inl ⟨left, before_eq, second_eq⟩
  · rcases List.cons_eq_append_iff.mp after_eq with
      ⟨rfl, second_eq⟩ | ⟨right, rfl, after_eq⟩
    · rw [List.append_nil] at first_eq
      exact .inl ⟨[], by rw [List.append_nil, first_eq], second_eq⟩
    · exact .inr ⟨right, first_eq, (List.cons.inj after_eq).2⟩

/-- Every record of a run is one of an operation of that run. -/
theorem exists_of_records {before after : List LogRecord} {record : LogRecord}
    (split : machine.records operations = before ++ record :: after) :
    ∃ earlier operation later left right,
      operations = earlier ++ operation :: later ∧
      (operation.perform (machine.after earlier)).trace =
        left ++ record :: right ∧
      before = machine.records earlier ++ left ∧
      after = right ++
        (operation.perform (machine.after earlier)).state.records later := by
  induction operations generalizing machine before with
  | nil =>
      rw [records] at split
      simp at split
  | cons operation rest ih =>
      -- The record is told later on, or by the first operation itself.
      rw [records_cons] at split
      rcases split_of_append split with
        ⟨before', rfl, further⟩ | ⟨right, here, rfl⟩
      · obtain ⟨earlier, own, later, left, right, rfl, told, rfl, rfl⟩ :=
          ih further
        refine ⟨operation :: earlier, own, later, left, right, rfl, told, ?_,
          rfl⟩
        rw [records_cons, List.append_assoc]
      · exact ⟨[], operation, rest, before, right, rfl, here, rfl, rfl⟩

theorem told_by_instruction {instruction : Instruction} {pc : UInt16}
    {record : LogRecord} (own : record ∈ instruction.records pc) :
    record.level ≠ .trace ∧ (∀ pc, record ≠ .paused pc) ∧
      (∀ pc, record ≠ .resumed pc) ∧ ∀ key x, record ≠ .released key x := by
  cases instruction <;> simp_all [Instruction.records, LogRecord.level]

theorem length_instruction_records (instruction : Instruction) (pc : UInt16) :
    (instruction.records pc).length ≤ 1 := by
  cases instruction <;> simp [Instruction.records]

/-- What an instruction tells comes right behind its fetch, as the last. -/
theorem split_fetchRecords {left right : List LogRecord} {record : LogRecord}
    (other : record.level ≠ .trace)
    (split : machine.fetchRecords = left ++ record :: right) :
    left = [.fetched machine.programCounter machine.nextWord
        machine.nextInstruction] ∧
      right = [] ∧
      machine.nextInstruction.records machine.programCounter = [record] := by
  rcases List.cons_eq_append_iff.mp split with
    ⟨rfl, same⟩ | ⟨left, rfl, behind⟩
  · cases same
    exact absurd rfl other
  · have short := length_instruction_records machine.nextInstruction
      machine.programCounter
    rw [behind, List.length_append, List.length_cons] at short
    have empty : left.length = 0 ∧ right.length = 0 := by omega
    rw [List.length_eq_zero_iff, List.length_eq_zero_iff] at empty
    obtain ⟨rfl, rfl⟩ := empty
    exact ⟨rfl, rfl, behind⟩

/-- The step of a machine fetches a word, of which it tells this. -/
structure Tells (machine : Machine) (record : LogRecord) : Prop where
  running : machine.paused = false
  idle : machine.keyWait = none
  inside : machine.programCounter.toNat + 2 ≤ Memory.size
  own : machine.nextInstruction.records machine.programCounter = [record]

/-- What an instruction tells comes from the step that fetched it. -/
theorem exists_step_of_records {before after : List LogRecord}
    {record : LogRecord} {instruction : Instruction} {pc : UInt16}
    (split : machine.records operations = before ++ record :: after)
    (own : record ∈ instruction.records pc) :
    ∃ earlier later teller,
      operations = earlier ++ .step :: later ∧
      machine.after earlier = teller ∧
      teller.Tells record ∧
      before = machine.records earlier ++
        [.fetched teller.programCounter teller.nextWord
          teller.nextInstruction] ∧
      after = teller.step.state.records later := by
  obtain ⟨earlier, operation, later, left, right, rfl, told, rfl, rfl⟩ :=
    exists_of_records split
  have member : record ∈ left ++ record :: right :=
    List.mem_append_right _ List.mem_cons_self
  obtain ⟨other, notPaused, notResumed, notReleased⟩ := told_by_instruction own
  have step : operation = .step := by
    by_cases same : operation = .step
    · exact same
    · rw [← told] at member
      rcases told_by_other same member with ⟨pc, paused | resumed⟩
      · exact absurd paused (notPaused pc)
      · exact absurd resumed (notResumed pc)
  subst step
  generalize reached : machine.after earlier = teller at told ⊢
  change teller.step.trace = left ++ record :: right at told
  -- Only a step that fetches a word can tell what an instruction tells.
  have fetches : teller.paused = false ∧ teller.keyWait = none ∧
      teller.programCounter.toNat + 2 ≤ Memory.size ∧
      teller.fetchRecords = left ++ record :: right := by
    cases teller.stepCase with
    | paused halted made => simp [made, Activity.done] at told
    | waiting x running wait noKey made => simp [made, Activity.done] at told
    | received x key running wait lowest made =>
        rw [made] at told
        rw [← told] at member
        exact absurd (List.mem_singleton.mp member) (notReleased key x)
    | unfetched running idle outside made => simp [made] at told
    | failed error running idle inside fault made =>
        rw [made] at told
        exact ⟨running, idle, inside, told⟩
    | executed running idle inside sound made =>
        rw [made] at told
        exact ⟨running, idle, inside, told⟩
  obtain ⟨running, idle, inside, parts⟩ := fetches
  obtain ⟨rfl, rfl, records⟩ := split_fetchRecords other parts
  exact ⟨earlier, later, teller, rfl, reached,
    ⟨running, idle, inside, records⟩, rfl, rfl⟩

theorem Tells.unknown {pc word : UInt16}
    (tells : machine.Tells (.unknownWord pc word)) :
    machine.nextInstruction = .unknown word ∧
      machine.programCounter = pc := by
  have own := tells.own
  cases decoded : machine.nextInstruction <;>
    simp_all [Instruction.records]

theorem Tells.waitKey {pc : UInt16} {x : Nibble}
    (tells : machine.Tells (.waiting pc x)) :
    machine.nextInstruction = .waitKey x ∧ machine.programCounter = pc := by
  have own := tells.own
  cases decoded : machine.nextInstruction <;>
    simp_all [Instruction.records]

theorem Tells.keyWait_step {pc : UInt16} {x : Nibble}
    (tells : machine.Tells (.waiting pc x)) :
    machine.step.state.keyWait = some x := by
  rw [step_of_sound tells.running tells.idle tells.inside tells.waitKey.1 rfl]
  rfl

theorem nextWord_of_decoded {instruction : Instruction}
    (decoded : machine.nextInstruction = instruction)
    (exact : instruction.isShift = false) :
    machine.nextWord = instruction.encode := by
  subst decoded
  exact (Instruction.encode_decode machine.nextWord exact).symm

/-! ## The end of a wait -/

/--
The first record of a wait for a key or of a fetched word, if there is one, is
that of a key received into a register.
-/
def Held (x : Nibble) : List LogRecord → Prop
  | [] => True
  | record :: rest =>
      (∃ key, record = .released key x) ∨ (record.Aside ∧ Held x rest)

theorem Held.of_append {x : Nibble} {first second : List LogRecord}
    (aside : ∀ record ∈ first, record.Aside) (held : Held x second) :
    Held x (first ++ second) := by
  induction first with
  | nil => exact held
  | cons record first ih =>
      have rest := ih fun other member =>
        aside other (List.mem_cons_of_mem _ member)
      exact .inr ⟨aside record List.mem_cons_self, rest⟩

theorem Held.next {x : Nibble} {between later : List LogRecord}
    {record : LogRecord} (held : Held x (between ++ record :: later))
    (about : record.isKeyWait = true)
    (none : ∀ other ∈ between, other.isKeyWait = false) :
    (∃ key, record = .released key x) ∧
      ∀ other ∈ between, other.level ≠ .trace := by
  induction between with
  | nil =>
      rcases held with released | ⟨⟨aside, -⟩, -⟩
      · exact ⟨released, fun other member => absurd member List.not_mem_nil⟩
      · rw [about] at aside
        cases aside
  | cons first between ih =>
      have here := none first List.mem_cons_self
      rcases held with ⟨key, rfl⟩ | ⟨⟨-, untraced⟩, rest⟩
      · cases here
      · obtain ⟨released, others⟩ := ih rest fun other member =>
          none other (List.mem_cons_of_mem _ member)
        exact ⟨released, List.forall_mem_cons.mpr ⟨untraced, others⟩⟩

/-- While a machine waits, it fetches nothing and no other wait begins. -/
theorem held_records {x : Nibble} (wait : machine.keyWait = some x)
    (operations : List Operation) : Held x (machine.records operations) := by
  -- Until the key is received, the machine waits for one into `x`.
  induction operations generalizing machine with
  | nil => trivial
  | cons operation rest ih =>
      rw [records_cons]
      by_cases same : operation = .step
      · subst same
        change Held x (machine.step.trace ++ machine.step.state.records rest)
        cases machine.stepCase with
        | paused halted made =>
            rw [made]
            exact ih wait
        | waiting y running waits noKey made =>
            rw [made]
            exact ih wait
        | received y key running waits lowest made =>
            cases wait.symm.trans waits
            rw [made]
            exact .inl ⟨key, rfl⟩
        | unfetched running idle outside made => cases wait.symm.trans idle
        | failed error running idle inside fault made =>
            cases wait.symm.trans idle
        | executed running idle inside sound made =>
            cases wait.symm.trans idle
      · refine .of_append (fun record member => ?_)
          (ih ((keyWait_of_other same machine).trans wait))
        rcases told_by_other same member with ⟨pc, rfl | rfl⟩
        · exact ⟨rfl, nofun⟩
        · exact ⟨rfl, nofun⟩

/-! ## The transcript -/

/-- How a run can be read back from what it tells. -/
structure Transcript (machine : Machine) (operations : List Operation) :
    Prop where
  /-- The records of the lowest level are the words fetched, in order. -/
  fetched : (machine.records operations).filter
      (fun record => record.level = .trace) =
    (machine.stepping operations).filterMap fetch?
  /-- The warnings are the unknown words executed, in order. -/
  warned : (machine.records operations).filter
      (fun record => record.level = .warn) =
    (machine.stepping operations).filterMap skippedWord?
  /-- A step that executes an unknown word tells the fetch and the warning. -/
  skipped : ∀ earlier later word, operations = earlier ++ .step :: later →
    (machine.after earlier).step.result = .ok (.executed (.unknown word)) →
    machine.records operations =
      machine.records earlier ++
        [.fetched (machine.after earlier).programCounter word (.unknown word),
          .unknownWord (machine.after earlier).programCounter word] ++
        (machine.after (earlier ++ [.step])).records later
  /-- A warning stands right behind the fetch that it is about. -/
  unknown : ∀ before pc word after,
    machine.records operations = before ++ .unknownWord pc word :: after →
    ∃ earlier, before = earlier ++ [.fetched pc word (.unknown word)]
  /--
  The beginning of a wait stands right behind the fetch of its Fx0A.  If
  another record of a wait comes later, the first such record is the end of
  this wait, and no word is fetched before it.
  -/
  waited : ∀ before pc x after,
    machine.records operations = before ++ .waiting pc x :: after →
    (∃ earlier, before = earlier ++
      [.fetched pc (Instruction.wordOf 0xF x 0x0 0xA) (.waitKey x)]) ∧
    ∀ between next later, after = between ++ next :: later →
      next.isKeyWait = true →
      (∀ record ∈ between, record.isKeyWait = false) →
      (∃ key, next = .released key x) ∧
        ∀ record ∈ between, record.level ≠ .trace
  /-- A step in vain tells nothing. -/
  silent : ∀ earlier later, operations = earlier ++ .step :: later →
    StepsInVain (machine.after earlier) →
    machine.records operations =
      machine.records earlier ++
        (machine.after (earlier ++ [.step])).records later

theorem records_of_step (earlier later : List Operation) :
    machine.records (earlier ++ .step :: later) =
      machine.records earlier ++ (machine.after earlier).step.trace ++
        (machine.after (earlier ++ [.step])).records later := by
  rw [records_append, records_cons, List.append_assoc, after_append]
  rfl

theorem trace_of_vain (vain : StepsInVain machine) :
    machine.step.trace = [] := by
  cases vain with
  | paused gave =>
      rw [step_of_no_progress gave rfl]
      rfl
  | waiting gave =>
      rw [step_of_no_progress gave rfl]
      rfl
  | unfetched error running idle outside =>
      rw [step_of_idle running idle, runWord, outside]

/--
The log of any operations on any machine can be read back: it tells each word
that is fetched and warns of each one that is no instruction; between the
beginning of a wait and its end no word is fetched; and a step that is made in
vain tells nothing.
-/
theorem log_is_transcript (machine : Machine) (operations : List Operation) :
    Transcript machine operations := by
  constructor
  case fetched => exact filter_records (by decide) filter_trace_step _ _
  case warned => exact filter_records (by decide) filter_warn_step _ _
  case skipped =>
    rintro earlier later word rfl gave
    obtain ⟨-, decoded, -, made⟩ := step_eq_of_executed gave
    have fetched := nextWord_of_decoded decoded.symm rfl
    rw [records_of_step, made, fetchRecords, fetched, ← decoded]
    rfl
  case unknown =>
    intro before pc word after split
    have own : .unknownWord pc word ∈ (Instruction.unknown word).records pc :=
      List.mem_cons_self
    obtain ⟨earlier, later, teller, -, -, tells, rfl, -⟩ :=
      exists_step_of_records split own
    obtain ⟨decoded, rfl⟩ := tells.unknown
    have fetched := nextWord_of_decoded decoded rfl
    rw [fetched, decoded]
    exact ⟨_, rfl⟩
  case waited =>
    intro before pc x after split
    have own : .waiting pc x ∈ (Instruction.waitKey x).records pc :=
      List.mem_cons_self
    obtain ⟨earlier, later, teller, -, -, tells, rfl, rfl⟩ :=
      exists_step_of_records split own
    obtain ⟨decoded, rfl⟩ := tells.waitKey
    have fetched := nextWord_of_decoded decoded rfl
    rw [fetched, decoded]
    refine ⟨⟨_, rfl⟩, fun between next rest split' about none => ?_⟩
    have held := held_records tells.keyWait_step later
    rw [split'] at held
    exact held.next about none
  case silent =>
    rintro earlier later rfl vain
    rw [records_of_step, trace_of_vain vain, List.append_nil]

/-- A wait that is paused, and behind it a word that is no instruction. -/
example :
    (loaded (.ofSeed 0) [0xF3, 0x0A, 0x80, 0x08]).records
        [.step, .pause, .step, .resume, .setKey 7 true, .step, .step] =
      [.fetched 0x200 0xF30A (.waitKey 3), .waiting 0x200 3, .paused 0x202,
        .resumed 0x202, .released 7 3,
        .fetched 0x202 0x8008 (.unknown 0x8008),
        .unknownWord 0x202 0x8008] := by
  decide +kernel

end Machine

end Chip8
