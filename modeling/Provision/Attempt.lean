/-!
Contract: computations that may fail and keep their state when they do.

Owns:
- `Attempt`, in which an error takes nothing back;
- `Attempt.runFrom`, the outcome together with the state afterwards;
- the equations of `runFrom`: values, failures, the state, sequences, and the
  two ways to look at a failure.

Does not own: any particular state.
-/

namespace Provision

/-- A computation with a state that stays when the computation fails. -/
abbrev Attempt (σ ε α : Type) := ExceptT ε (StateM σ) α

/-- Runs an attempt from a state: the outcome and the state afterwards. -/
def Attempt.runFrom {σ ε α : Type} (attempt : Attempt σ ε α) (state : σ) :
    Except ε α × σ :=
  (ExceptT.run attempt).run state

namespace Attempt

variable {σ ε ε' α β : Type}

@[simp]
theorem runFrom_pure (value : α) (state : σ) :
    Attempt.runFrom (ε := ε) (pure value) state = (.ok value, state) := rfl

@[simp]
theorem runFrom_throw (error : ε) (state : σ) :
    Attempt.runFrom (α := α) (throw error) state = (.error error, state) := rfl

/-- What follows a failure does not run, and the state stays as it was. -/
theorem runFrom_bind (first : Attempt σ ε α) (next : α → Attempt σ ε β)
    (state : σ) :
    Attempt.runFrom (first >>= next) state =
      match first.runFrom state with
      | (.ok value, after) => (next value).runFrom after
      | (.error error, after) => (.error error, after) := by
  simp only [runFrom, ExceptT.run_bind, StateT.run_bind]
  cases ran : first.run.run state with
  | mk outcome after => cases outcome <;> simp_all <;> rfl

@[simp]
theorem runFrom_get (state : σ) :
    Attempt.runFrom (get : Attempt σ ε σ) state = (.ok state, state) := rfl

@[simp]
theorem runFrom_set (after before : σ) :
    Attempt.runFrom (set after : Attempt σ ε PUnit) before =
      (.ok ⟨⟩, after) := rfl

@[simp]
theorem runFrom_modify (change : σ → σ) (state : σ) :
    Attempt.runFrom (modify change : Attempt σ ε PUnit) state =
      (.ok ⟨⟩, change state) := rfl

/-- An outcome that is known already leaves the state alone. -/
@[simp]
theorem runFrom_mk_pure (outcome : Except ε α) (state : σ) :
    Attempt.runFrom (ExceptT.mk (pure outcome) : Attempt σ ε α) state =
      (outcome, state) := rfl

/-- Rewording a failure changes nothing else. -/
@[simp]
theorem runFrom_adapt (change : ε → ε') (attempt : Attempt σ ε α)
    (state : σ) :
    Attempt.runFrom (ExceptT.adapt change attempt) state =
      ((attempt.runFrom state).1.mapError change,
        (attempt.runFrom state).2) := rfl

@[simp]
theorem mapError_ok (change : ε → ε') (value : α) :
    (Except.ok value).mapError change = .ok value := rfl

@[simp]
theorem mapError_error (change : ε → ε') (error : ε) :
    (Except.error error : Except ε α).mapError change =
      .error (change error) := rfl

/-- A handler goes on from the state in which the failure left things. -/
theorem runFrom_tryCatch (attempt : Attempt σ ε α)
    (handler : ε → Attempt σ ε α) (state : σ) :
    Attempt.runFrom (tryCatch attempt handler) state =
      match attempt.runFrom state with
      | (.ok value, after) => (.ok value, after)
      | (.error error, after) => (handler error).runFrom after := by
  simp only [runFrom, ExceptT.run_tryCatch, StateT.run_bind]
  cases ran : attempt.run.run state with
  | mk outcome after => cases outcome <;> simp_all <;> rfl

end Attempt

end Provision
