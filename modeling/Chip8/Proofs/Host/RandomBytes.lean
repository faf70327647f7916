import Chip8.Proofs.Host.Operations
import Chip8.Proofs.Machine.RandomBytes

/-!
# Random bytes of a seeded run

A seed determines the random bytes of everything that is done afterwards, until
another seed is given.  For a machine the seed is given by an operation, for a
host with a seed among its settings by every load that succeeds; what is asked
of the host from then on comes down to operations of the new machine, none of
which gives a seed.
-/

namespace Chip8

namespace Host

open Machine

variable {ι δ σ : Type}

/-- A load that succeeds starts the sequence of the seed in the settings. -/
theorem random_load [SoundDevice σ] {host : Host ι δ σ} {fresh : RandomSource}
    {program : List UInt8} {seed : UInt64}
    (seeded : host.config.seed = some seed)
    (succeeds : (host.load fresh program).result = .ok ()) :
    (host.load fresh program).state.machine.random = fresh.reseed seed := by
  rcases Nat.lt_or_ge Memory.programCapacity program.length with large | fits
  · rw [host.load_of_tooLarge fresh large] at succeeds
    cases succeeds
  · rw [(host.load_of_fits fresh fits).2, Config.randomSource, seeded]
    rfl

variable [InputDevice ι] [DisplayDevice δ] [SoundDevice σ]

/--
Once a machine is given a seed, the draws of every run store the bytes of the
seed one after another, each under its mask, and nothing else touches the
source; another seed starts another sequence.  The same holds of a host with a
seed among its settings from each load that succeeds to the next.
-/
theorem random_bytes_follow_seed :
    (∀ (machine : Machine) (seed : UInt64) (operations : List Operation),
      Unseeded operations →
        (machine.reseed seed).FollowsSeed machine.random.sequenceOf seed
          operations ∧
        ∀ (again : UInt64) (further : List Operation), Unseeded further →
          ((machine.reseed seed).after
            (operations ++ [.reseed again])).FollowsSeed
              machine.random.sequenceOf again further) ∧
    ∀ (host : Host ι δ σ) (fresh : RandomSource) (program : List UInt8)
      (seed : UInt64) (requests : List Request),
      host.config.seed = some seed →
      (host.load fresh program).result = .ok () →
      (∀ fresh program, .load fresh program ∈ requests →
        Memory.programCapacity < program.length) →
        let loaded := (host.load fresh program).state
        loaded.machine.FollowsSeed fresh.sequenceOf seed
          (loaded.operationsOfAll requests) ∧
        loaded.machine.Performs (loaded.operationsOfAll requests)
          ((loaded.courseOfAll requests).getLastD loaded.machine)
          (loaded.seenOfAll requests) := by
  constructor
  · intro machine seed operations unseeded
    refine ⟨followsSeed rfl unseeded, fun again further unseeded' => ?_⟩
    apply followsSeed ?_ unseeded'
    rw [after_append]
    show ((machine.reseed seed).after operations).random.reseed again = _
    rw [random_after unseeded]
    rfl
  · intro host fresh program seed requests seeded succeeds refused loaded
    have performs := loaded.performs_courseOfAll refused
    exact ⟨followsSeed (random_load seeded succeeds) performs.unseeded,
      performs⟩

/-- A byte is drawn, again and again. -/
def drawingProgram : List UInt8 :=
  [0xC0, 0x0F, 0x12, 0x00]

def drawingHost : Host KeyScript FrameRecorder SilentSound :=
  .start ⟨3, 60, false, some 2, some 7⟩ (.ofSeed 0) ⟨[]⟩ .empty ⟨false⟩

/-- Its program draws the bytes of its seed, and those of any other. -/
theorem drawingHost_follows_seed :
    let loading := drawingHost.load (.ofSeed 0) drawingProgram
    let requests : List Request :=
      [.runFrame, .load (.ofSeed 0) (List.replicate 3585 0), .mainLoop 0]
    loading.result = .ok () ∧
      loading.state.machine.FollowsSeed (RandomSource.ofSeed 0).sequenceOf 7
        (loading.state.operationsOfAll requests) ∧
      (loading.state.machine.reseed 9).step.state.register 0 =
        (CipherKey.ofSeed 9).byteAt 0 &&& 0x0F := by
  intro loading requests
  have succeeds : loading.result = .ok () := rfl
  have refused : ∀ fresh program, .load fresh program ∈ requests →
      Memory.programCapacity < program.length := by
    intro fresh program member
    simp only [requests, List.mem_cons, Request.load.injEq, reduceCtorEq,
      List.not_mem_nil, or_false, false_or] at member
    rw [member.2, List.length_replicate]
    exact Nat.lt_succ_self 3584
  have follows := @random_bytes_follow_seed KeyScript FrameRecorder SilentSound
    _ _ _
  have drawing : ∀ random : RandomSource,
      ((loaded random drawingProgram).reseed 9).step.result =
        .ok (.executed (.random 0 0x0F)) := by
    intro random
    have draws : ((loaded random drawingProgram).reseed 9).nextInstruction =
        .random 0 0x0F :=
      nextInstruction_of_loaded drawingProgram 0 (by decide) (by decide)
        (by rw [reseed]) rfl (by decide)
    have inside : 0x200 + 2 ≤ Memory.size := by decide
    have made : ((loaded random drawingProgram).reseed 9).step = _ :=
      step_of_sound rfl rfl inside draws rfl
    rw [made]
  have machine := (drawingHost.load_of_fits (.ofSeed 0)
    (show drawingProgram.length ≤ Memory.programCapacity by decide)).2
  have unseeded : Unseeded [.step] := unseeded_singleton (by simp)
  have reseeded := (follows.1 loading.state.machine 9 [.step] unseeded).1
  refine ⟨succeeds, (follows.2 drawingHost (.ofSeed 0) _ 7 requests rfl succeeds
    refused).1, ?_⟩
  apply reseeded.drawn [] [] 0 0x0F rfl
  show (Machine.reseed loading.state.machine 9).step.result = _
  rw [machine]
  exact drawing _

end Host

end Chip8
