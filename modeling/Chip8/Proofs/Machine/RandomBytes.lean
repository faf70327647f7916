import Chip8.Proofs.Machine.Pausing

/-!
# Where random bytes go

The source of a machine reads a sequence and knows how many bytes were drawn
from it.  A step that executes an instruction Cxkk draws one byte, whatever its
mask is; no other step and no other operation touches the source, except that a
new seed starts another sequence.  How many bytes a run has drawn is therefore
how often it has executed this instruction, and the bytes are those of the seed
in their order, whatever sequence a seed stands for.
-/

namespace Chip8

namespace Machine

/-- Whether a step executed an instruction Cxkk. -/
def isDraw : Except Error Outcome → Bool
  | .ok (.executed (.random _ _)) => true
  | _ => false

/-- How many random bytes a run draws. -/
def draws (machine : Machine) (operations : List Operation) : Nat :=
  (machine.outcomes operations).countP isDraw

/--
A run reads the bytes of a seed from the first one on; the sequences of the
seeds are given.
-/
structure FollowsSeed (sequenceOf : UInt64 → Nat → UInt8) (seed : UInt64)
    (machine : Machine) (operations : List Operation) : Prop where
  /-- All along, the draws so far say how far the sequence has been read. -/
  position : ∀ earlier later, operations = earlier ++ later →
    (machine.after earlier).random =
      ⟨sequenceOf, sequenceOf seed, machine.draws earlier⟩
  /-- Each draw stores the next byte under its mask. -/
  drawn : ∀ earlier later x kk, operations = earlier ++ .step :: later →
    (machine.after earlier).step.result = .ok (.executed (.random x kk)) →
      (machine.after earlier).step.state.register x =
        sequenceOf seed (machine.draws earlier) &&& kk
  /-- Nothing but a draw touches the source. -/
  untouched : ∀ earlier operation later,
    operations = earlier ++ operation :: later →
      (operation = .step →
        isDraw (machine.after earlier).step.result = false) →
        (operation.perform (machine.after earlier)).state.random =
          (machine.after earlier).random

variable {machine : Machine}

/-! ## Steps -/

theorem random_effect_other {instruction : Instruction}
    (other : ∀ x kk, instruction ≠ .random x kk) :
    (machine.effect instruction).random = machine.random := by
  rw [effect_random]
  cases instruction with
  | random x kk => exact absurd rfl (other x kk)
  | _ => rfl

/-- A step that draws moves the source on and stores the byte it gave. -/
theorem step_of_draw {x : Nibble} {kk : UInt8}
    (drawing : machine.step.result = .ok (.executed (.random x kk))) :
    machine.step.state.random = machine.random.next.2 ∧
      machine.step.state.register x = machine.random.next.1 &&& kk := by
  rcases step_of_executed drawing with ⟨-, -, -, effected⟩
  rw [effected]
  constructor
  · rfl
  · exact (register_setRegister _ x x _).trans (if_pos rfl)

/-- Any other step, whatever comes of it, leaves the source alone. -/
theorem random_step_of_other (other : isDraw machine.step.result = false) :
    machine.step.state.random = machine.random := by
  rcases step_executed_or_keeps random (fun _ => rfl) (fun _ _ _ => rfl)
      machine with ⟨instruction, executed, effected⟩ | ⟨-, kept⟩
  · rw [effected]
    apply random_effect_other
    rintro x kk rfl
    rw [executed] at other
    cases other
  · exact kept

theorem exists_draw {result : Except Error Outcome} (draw : isDraw result) :
    ∃ x kk, result = .ok (.executed (.random x kk)) := by
  cases result with
  | error error => cases draw
  | ok outcome =>
      cases outcome with
      | executed instruction =>
          cases instruction with
          | random x kk => exact ⟨x, kk, rfl⟩
          | _ => cases draw
      | _ => cases draw

/-! ## Operations and runs -/

/-- Without a seed, only a draw touches the source. -/
theorem random_perform_of_other {operation : Operation}
    (unseeded : ∀ seed, operation ≠ .reseed seed)
    (other : operation = .step → isDraw machine.step.result = false) :
    (operation.perform machine).state.random = machine.random := by
  cases operation with
  | step => exact random_step_of_other (other rfl)
  | tick => exact tick_keeps random (fun _ _ _ => rfl) machine
  | reseed seed => exact absurd rfl (unseeded seed)
  | _ => rfl

/-- An operation moves the source on by the number of its draws. -/
theorem random_perform {operation : Operation}
    (unseeded : ∀ seed, operation ≠ .reseed seed) :
    (operation.perform machine).state.random =
      { machine.random with
        drawn := machine.random.drawn +
          (operation.results machine).countP isDraw } := by
  by_cases drawing : operation = .step ∧ isDraw machine.step.result
  · rcases drawing with ⟨rfl, draw⟩
    rcases exists_draw draw with ⟨x, kk, drawing⟩
    have one : (Operation.step.results machine).countP isDraw = 1 := by
      rw [Operation.results, drawing]
      rfl
    rw [one]
    exact (step_of_draw drawing).1
  · have other : operation = .step → isDraw machine.step.result = false :=
      fun same => Bool.eq_false_iff.mpr fun draw => drawing ⟨same, draw⟩
    have none : (operation.results machine).countP isDraw = 0 := by
      cases operation with
      | step =>
          rw [Operation.results, List.countP_singleton, other rfl]
          rfl
      | _ => rfl
    rw [none]
    exact random_perform_of_other unseeded other

theorem draws_cons (machine : Machine) (operation : Operation)
    (rest : List Operation) :
    machine.draws (operation :: rest) =
      (operation.results machine).countP isDraw +
        (operation.perform machine).state.draws rest := by
  rw [draws, outcomes_cons, List.countP_append]
  rfl

/-- A run moves the source on by the number of its draws. -/
theorem random_after {operations : List Operation}
    (unseeded : Unseeded operations) :
    (machine.after operations).random =
      { machine.random with
        drawn := machine.random.drawn + machine.draws operations } := by
  induction operations generalizing machine with
  | nil => rfl
  | cons operation rest ih =>
      have here : ∀ seed, operation ≠ .reseed seed := by
        rintro seed rfl
        exact unseeded seed List.mem_cons_self
      have further : Unseeded rest :=
        fun seed member => unseeded seed (List.mem_cons_of_mem _ member)
      rw [after_cons, ih further, random_perform here, draws_cons,
        Nat.add_assoc]

/-- A machine at the start of a sequence goes on with it. -/
theorem followsSeed {source : RandomSource} {seed : UInt64}
    (started : machine.random = source.reseed seed)
    {operations : List Operation} (unseeded : Unseeded operations) :
    FollowsSeed source.sequenceOf seed machine operations := by
  have position : ∀ earlier later, operations = earlier ++ later →
      (machine.after earlier).random =
        ⟨source.sequenceOf, source.sequenceOf seed,
          machine.draws earlier⟩ := by
    rintro earlier later rfl
    rw [random_after (unseeded_append.mp unseeded).1, started,
      RandomSource.reseed, Nat.zero_add]
  constructor
  · exact position
  · intro earlier later x kk split drawing
    rw [(step_of_draw drawing).2, position earlier _ split]
    rfl
  · rintro earlier operation later rfl other
    apply random_perform_of_other ?_ other
    rintro again rfl
    exact unseeded again (List.mem_append_right earlier List.mem_cons_self)

end Machine

end Chip8
