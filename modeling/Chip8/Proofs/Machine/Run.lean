import Chip8.Machine.Operation
import Chip8.Proofs.Memory.Access

/-!
# Runs

A machine is built without a program, with one, or with the one that a reader
gives; what is done to it afterwards is a run of operations.  A machine is
reachable if some run leads to it from a machine that was built.

What holds of every machine that is built, and is kept by every single
operation, holds of every reachable machine.
-/

namespace Chip8

namespace Machine

/-- A machine to which nothing has been done yet. -/
inductive Built : Machine → Prop where
  /-- It was made without a program. -/
  | powerUp (random : RandomSource) : Built (.powerUp random)
  /-- It was made with a program. -/
  | withProgram {random : RandomSource} {program : List UInt8}
      {machine : Machine}
      (loaded : Machine.withProgram random program = .ok machine) :
      Built machine
  /-- It was made with the program of a reader. -/
  | fromReader {random : RandomSource} {reader : List Read}
      {machine : Machine}
      (loaded : Machine.fromReader random reader = .ok machine) :
      Built machine

/-- A machine to which a run leads from one that was built. -/
def Reachable (machine : Machine) : Prop :=
  ∃ start operations, Built start ∧ start.after operations = machine

/-- The machine that holds a program and nothing else. -/
def loaded (random : RandomSource) (program : List UInt8) : Machine :=
  { powerUp random with
    memory := Memory.withFont.overwrite Memory.programStart program }

theorem withProgram_of_fits (random : RandomSource)
    {program : List UInt8} (fits : program.length ≤ Memory.programCapacity) :
    withProgram random program = .ok (loaded random program) := by
  rw [withProgram, Memory.load_of_fits fits]
  rfl

theorem withProgram_of_tooLarge (random : RandomSource)
    {program : List UInt8} (large : Memory.programCapacity < program.length) :
    withProgram random program = .error (.programTooLarge program.length) := by
  rw [withProgram, Memory.load_of_tooLarge large]
  rfl

theorem byteAt_loaded (random : RandomSource) {program : List UInt8}
    (fits : program.length ≤ Memory.programCapacity) {offset : Nat}
    (inside : offset < program.length) :
    (loaded random program).memory.byteAt (Memory.programStart + offset) =
      program.getD offset 0 := by
  have room := Memory.end_of_fits fits
  exact Memory.byteAt_program program (by omega)

/-- Two bytes of a program that was loaded are read as a word. -/
theorem wordAt_loaded (random : RandomSource) {program : List UInt8}
    (fits : program.length ≤ Memory.programCapacity) {offset : Nat}
    (inside : offset + 1 < program.length) :
    (loaded random program).memory.wordAt (Memory.programStart + offset) =
      UInt16.ofNat
        (256 * (program.getD offset 0).toNat +
          (program.getD (offset + 1) 0).toNat) := by
  rw [Memory.wordAt, Nat.add_assoc,
    byteAt_loaded random fits (Nat.lt_of_succ_lt inside),
    byteAt_loaded random fits inside]

/-- A machine that was built differs from an empty one in its memory. -/
theorem Built.eq_powerUp_with {machine : Machine} (built : Built machine) :
    ∃ random memory,
      machine = { Machine.powerUp random with memory := memory } := by
  cases built with
  | powerUp random => exact ⟨random, _, rfl⟩
  | @withProgram random program _ loaded =>
      cases stored : Memory.withFont.load program with
      | error error =>
          simp [Machine.withProgram, stored, Except.map] at loaded
      | ok memory =>
          refine ⟨random, memory, ?_⟩
          simpa [Machine.withProgram, stored, Except.map] using loaded.symm
  | @fromReader random reader _ loaded =>
      cases stored : Memory.withFont.loadFrom reader with
      | error error =>
          simp [Machine.fromReader, stored, Except.map] at loaded
      | ok memory =>
          refine ⟨random, memory, ?_⟩
          simpa [Machine.fromReader, stored, Except.map] using loaded.symm

@[simp]
theorem after_nil (machine : Machine) : machine.after [] = machine :=
  rfl

@[simp]
theorem after_cons (machine : Machine) (operation : Operation)
    (rest : List Operation) :
    machine.after (operation :: rest) =
      (operation.perform machine).state.after rest :=
  rfl

theorem after_step (machine : Machine) (rest : List Operation) :
    machine.after (.step :: rest) = machine.step.state.after rest :=
  rfl

/-- A run in two parts is the one part after the other. -/
theorem after_append (machine : Machine)
    (earlier later : List Operation) :
    machine.after (earlier ++ later) =
      (machine.after earlier).after later := by
  induction earlier generalizing machine with
  | nil => rfl
  | cons operation rest step =>
      exact step (operation.perform machine).state

/-- The records of a run are those of its operations in order. -/
theorem records_cons (machine : Machine) (operation : Operation)
    (rest : List Operation) :
    machine.records (operation :: rest) =
      (operation.perform machine).trace ++
        (operation.perform machine).state.records rest :=
  rfl

theorem records_append (machine : Machine) (first second : List Operation) :
    machine.records (first ++ second) =
      machine.records first ++ (machine.after first).records second := by
  induction first generalizing machine with
  | nil => rfl
  | cons operation rest ih =>
      rw [List.cons_append, records_cons, ih, records_cons, List.append_assoc]
      rfl

/-- A run in which no sequence of random bytes is started. -/
def Unseeded (operations : List Operation) : Prop :=
  ∀ seed, .reseed seed ∉ operations

theorem unseeded_append {earlier later : List Operation} :
    Unseeded (earlier ++ later) ↔ Unseeded earlier ∧ Unseeded later := by
  constructor
  · intro unseeded
    exact ⟨fun seed member => unseeded seed (List.mem_append_left _ member),
      fun seed member => unseeded seed (List.mem_append_right _ member)⟩
  · rintro ⟨first, second⟩ seed member
    rcases List.mem_append.mp member with before | after
    · exact first seed before
    · exact second seed after

theorem unseeded_nil : Unseeded [] :=
  fun _ => List.not_mem_nil

theorem unseeded_singleton {operation : Operation}
    (other : ∀ seed, operation ≠ .reseed seed) : Unseeded [operation] := by
  intro seed member
  exact other seed (List.mem_singleton.mp member).symm

/-- No step of a run is made by a machine of a certain kind. -/
def NoStepWhere (stops : Machine → Prop) (machine : Machine)
    (operations : List Operation) : Prop :=
  ∀ earlier later, operations = earlier ++ .step :: later →
    ¬ stops (machine.after earlier)

@[simp]
theorem noStepWhere_nil (stops : Machine → Prop) (machine : Machine) :
    NoStepWhere stops machine [] := by
  intro earlier later same
  cases earlier <;> cases same

theorem noStepWhere_of_not_mem {stops : Machine → Prop} {machine : Machine}
    {operations : List Operation} (without : .step ∉ operations) :
    NoStepWhere stops machine operations := by
  rintro earlier later rfl
  exact absurd (List.mem_append_right earlier List.mem_cons_self) without

/-- The first operation of a run and the rest are judged separately. -/
theorem noStepWhere_cons {stops : Machine → Prop} {machine : Machine}
    {operation : Operation} {rest : List Operation} :
    NoStepWhere stops machine (operation :: rest) ↔
      (operation = .step → ¬ stops machine) ∧
        NoStepWhere stops (operation.perform machine).state rest := by
  constructor
  · intro without
    constructor
    · rintro rfl
      exact without [] rest rfl
    · rintro earlier later rfl
      exact without (operation :: earlier) later rfl
  · rintro ⟨here, without⟩ earlier later same
    cases earlier with
    | nil =>
        cases same
        exact here rfl
    | cons first earlier =>
        cases same
        exact without earlier later rfl

theorem noStepWhere_step {stops : Machine → Prop} {machine : Machine}
    {rest : List Operation} :
    NoStepWhere stops machine (.step :: rest) ↔
      ¬ stops machine ∧ NoStepWhere stops machine.step.state rest :=
  noStepWhere_cons.trans (and_congr_left' (forall_prop_of_true rfl))

theorem noStepWhere_of_append {stops : Machine → Prop} {machine : Machine}
    {earlier later : List Operation}
    (without : NoStepWhere stops machine (earlier ++ later)) :
    NoStepWhere stops machine earlier := by
  rintro before behind rfl
  apply without before (behind ++ later)
  rw [List.append_assoc, List.cons_append]

/--
What every operation keeps, except for steps of a certain kind, is kept by
every run without such a step.
-/
theorem after_invariant_unless (holds : Machine → Prop)
    {stops : Machine → Prop}
    (kept : ∀ machine operation, holds machine →
      (operation = .step → ¬ stops machine) →
      holds (Operation.perform machine operation).state)
    {machine : Machine} (initially : holds machine)
    {operations : List Operation}
    (without : NoStepWhere stops machine operations) :
    holds (machine.after operations) := by
  induction operations generalizing machine with
  | nil => exact initially
  | cons operation rest step =>
      obtain ⟨here, further⟩ := noStepWhere_cons.mp without
      exact step (kept machine operation initially here) further

/-- What every operation keeps is kept by every run. -/
theorem after_invariant (holds : Machine → Prop)
    (kept : ∀ machine operation, holds machine →
      holds (Operation.perform machine operation).state)
    {machine : Machine} (initially : holds machine)
    (operations : List Operation) :
    holds (machine.after operations) := by
  have without : NoStepWhere (fun _ => False) machine operations :=
    fun _ _ _ never => never
  exact after_invariant_unless holds
    (fun machine operation before _ => kept machine operation before)
    initially without

/--
What holds of every machine that is built, and is kept by every operation,
holds of every reachable machine.
-/
theorem Reachable.invariant {holds : Machine → Prop}
    (initially : ∀ machine, Built machine → holds machine)
    (kept : ∀ machine operation, holds machine →
      holds (Operation.perform machine operation).state)
    {machine : Machine} (reachable : Reachable machine) :
    holds machine := by
  obtain ⟨start, operations, built, rfl⟩ := reachable
  exact after_invariant holds kept (initially start built) operations

end Machine

end Chip8
