import JournaledVolume.Error

/-!
# Actions

An action changes a state, and returns a value or fails with an error. The state is as the action
left it in either case, so what happened before a failure stays. The statements below say what the
parts of an action do to a state; proofs about an action take it apart with them.
-/

namespace JournaledVolume

/-- A computation that changes a state of type `σ` and may fail. -/
abbrev Action (σ : Type) := EStateM Error σ

namespace Action

variable {σ α β : Type}

/-- Fails with the error of a computation, or returns its value. -/
def ofExcept : Except Error α → Action σ α
  | .ok value => pure value
  | .error error => throw error

variable {act : Action σ α} {next : α → Action σ β} {state after : σ} {value returned : α}
  {result : β} {error : Error}

/-- What follows a success goes on from its state. -/
theorem bind_of_ok (first : act state = .ok value after) :
    (act >>= next) state = next value after := by
  simp only [bind, EStateM.bind, first]

/-- Nothing follows a failure. -/
theorem bind_of_error (first : act state = .error error after) :
    (act >>= next) state = .error error after := by
  simp only [bind, EStateM.bind, first]

/-- Of two actions in sequence that succeed, each succeeds. -/
theorem of_bind_ok (ran : (act >>= next) state = .ok result after) :
    ∃ value between, act state = .ok value between ∧ next value between = .ok result after := by
  cases first : act state with
  | ok value between => exact ⟨value, between, rfl, (bind_of_ok first).symm.trans ran⟩
  | error error between => exact nomatch (bind_of_error first).symm.trans ran

/-- Returning a value leaves the state. -/
theorem of_pure_ok (ran : (pure value : Action σ α) state = .ok returned after) :
    value = returned ∧ state = after := by
  cases ran
  exact ⟨rfl, rfl⟩

/-- A failure is no success. -/
theorem throw_ne_ok (ran : (throw error : Action σ α) state = .ok value after) : False :=
  nomatch ran

end Action

end JournaledVolume
