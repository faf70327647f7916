/-!
# Activities

What happens to a stateful thing is described by what it leaves behind: a
result or an error, the state afterwards, and what it emitted on the way.  The
state and the emissions are there whether or not the activity succeeded.
-/

namespace Chip8

/--
What an activity leaves behind, on states of type `σ`, with items of type `ω`
emitted, errors of type `ε` and results of type `α`.
-/
structure Activity (ω ε σ α : Type) where
  /-- The result or the error. -/
  result : Except ε α
  /-- The state afterwards. -/
  state : σ
  /-- What was emitted, oldest first. -/
  trace : List ω

namespace Activity

variable {ω ε σ α β : Type}

/-- Nothing happens but a result. -/
def done (value : α) (state : σ) : Activity ω ε σ α :=
  ⟨.ok value, state, []⟩

/-- Something is emitted and nothing else happens. -/
def emit (items : List ω) (state : σ) : Activity ω ε σ Unit :=
  ⟨.ok (), state, items⟩

/-- The same activity with something else made of its result. -/
def map (made : Activity ω ε σ α) (value : α → β) : Activity ω ε σ β :=
  ⟨made.result.map value, made.state, made.trace⟩

/-- One activity and, if it succeeds, another one. -/
def andThen (first : Activity ω ε σ α) (following : α → σ → Activity ω ε σ β) :
    Activity ω ε σ β :=
  match first.result with
  | .ok value =>
      let second := following value first.state
      ⟨second.result, second.state, first.trace ++ second.trace⟩
  | .error error => ⟨.error error, first.state, first.trace⟩

@[simp]
theorem andThen_done (value : α) (state : σ)
    (following : α → σ → Activity ω ε σ β) :
    (done value state).andThen following = following value state := by
  simp [andThen, done]

theorem andThen_of_ok {first : Activity ω ε σ α} {value : α}
    (succeeded : first.result = .ok value)
    (following : α → σ → Activity ω ε σ β) :
    first.andThen following =
      ⟨(following value first.state).result,
        (following value first.state).state,
        first.trace ++ (following value first.state).trace⟩ := by
  simp [andThen, succeeded]

theorem andThen_of_error {first : Activity ω ε σ α} {error : ε}
    (failed : first.result = .error error)
    (following : α → σ → Activity ω ε σ β) :
    first.andThen following = ⟨.error error, first.state, first.trace⟩ := by
  simp [andThen, failed]

/-- What both parts of an activity preserve is preserved by the whole. -/
theorem andThen_preserves (holds : σ → Prop) {first : Activity ω ε σ α}
    {following : α → σ → Activity ω ε σ β} (start : holds first.state)
    (further : ∀ value state, holds state →
      holds (following value state).state) :
    holds (first.andThen following).state := by
  cases result : first.result with
  | ok value =>
      rw [andThen_of_ok result]
      exact further value first.state start
  | error error =>
      rw [andThen_of_error result]
      exact start

/-- What both parts of an activity keep is kept by the whole. -/
theorem andThen_keeps {τ : Type} {view : σ → τ} {kept : τ}
    {first : Activity ω ε σ α} {following : α → σ → Activity ω ε σ β}
    (start : view first.state = kept)
    (further : ∀ value state, view state = kept →
      view (following value state).state = kept) :
    view (first.andThen following).state = kept :=
  andThen_preserves (fun state => view state = kept) start further

/-- An activity is made of its result and of what it leaves behind. -/
theorem eq_of_result {first : Activity ω ε σ α} {result : Except ε α}
    (gave : first.result = result) :
    first = ⟨result, first.state, first.trace⟩ := by
  rw [← gave]

end Activity

end Chip8
