/-!
# Outcomes of computations

A computation that may fail and that changes a state has an outcome from each
state: a result, and the state behind it.
-/

namespace ThemedViews

variable {ε σ α β : Type}

theorem run_bind (action : StateM σ α) (next : α → StateM σ β) (state : σ) :
    (action >>= next).run state = (next (action.run state).1).run (action.run state).2 :=
  rfl

/-- The result of a computation from a state, and the state behind it. -/
def outcome (action : ExceptT ε (StateM σ) α) (state : σ) : Except ε α × σ :=
  action.run.run state

@[simp]
theorem outcome_pure (value : α) (state : σ) :
    outcome (pure value : ExceptT ε (StateM σ) α) state = (.ok value, state) :=
  rfl

@[simp]
theorem outcome_throw (error : ε) (state : σ) :
    outcome (throw error : ExceptT ε (StateM σ) α) state = (.error error, state) :=
  rfl

theorem outcome_get_bind (next : σ → ExceptT ε (StateM σ) α) (state : σ) :
    outcome (get >>= next) state = outcome (next state) state :=
  rfl

theorem outcome_modify_bind (change : σ → σ) (next : PUnit → ExceptT ε (StateM σ) α) (state : σ) :
    outcome (modify change >>= next) state = outcome (next ⟨⟩) (change state) :=
  rfl

theorem outcome_result_bind (result : Except ε α) (next : α → ExceptT ε (StateM σ) β) (state : σ) :
    outcome (ExceptT.mk (pure result) >>= next) state =
      match result with
      | .ok value => outcome (next value) state
      | .error error => (.error error, state) := by
  cases result <;> rfl

theorem outcome_bind (action : ExceptT ε (StateM σ) α) (next : α → ExceptT ε (StateM σ) β)
    (state : σ) :
    outcome (action >>= next) state =
      match outcome action state with
      | (.ok value, after) => outcome (next value) after
      | (.error error, after) => (.error error, after) := by
  have stepped : outcome (action >>= next) state =
      ExceptT.bindCont next (outcome action state).1 (outcome action state).2 := rfl
  rw [stepped]
  obtain ⟨_ | value, after⟩ := outcome action state
  · rfl
  · rfl

section Bind

variable {action : ExceptT ε (StateM σ) α} {state after : σ}

theorem outcome_bind_of_ok {value : α} (done : outcome action state = (.ok value, after))
    (next : α → ExceptT ε (StateM σ) β) :
    outcome (action >>= next) state = outcome (next value) after := by
  rw [outcome_bind, done]

theorem outcome_bind_of_error {error : ε}
    (failed : outcome action state = (.error error, after)) (next : α → ExceptT ε (StateM σ) β) :
    outcome (action >>= next) state = (.error error, after) := by
  rw [outcome_bind, failed]

/-- What succeeds has succeeded in both parts. -/
theorem exists_of_outcome_bind_eq_ok {next : α → ExceptT ε (StateM σ) β} {result : β}
    (done : outcome (action >>= next) state = (.ok result, after)) :
    ∃ value between, outcome action state = (.ok value, between) ∧
      outcome (next value) between = (.ok result, after) := by
  rw [outcome_bind] at done
  cases first : outcome action state with
  | mk found between =>
      rw [first] at done
      cases found with
      | error error => cases done
      | ok value => exact ⟨value, between, rfl, done⟩

end Bind

theorem exists_of_bind_eq_ok {first : Except ε α} {next : α → Except ε β} {result : β}
    (done : first >>= next = .ok result) : ∃ value, first = .ok value ∧ next value = .ok result := by
  cases first with
  | error error => cases done
  | ok value => exact ⟨value, rfl, done⟩

theorem mapError_eq_ok_iff {γ : Type} {result : Except ε α} {convert : ε → γ} {value : α} :
    result.mapError convert = .ok value ↔ result = .ok value := by
  cases result with
  | error cause =>
      constructor
      · intro same
        cases same
      · intro same
        cases same
  | ok found =>
      constructor
      · intro same
        cases same
        rfl
      · intro same
        cases same
        rfl

end ThemedViews
