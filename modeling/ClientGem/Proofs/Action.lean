/-!
Actions that change a state and may fail: what a step behind another comes to, and a handler behind
a step that may fail. Either goes on in the state that the first step has reached.
-/

namespace ClientGem

variable {σ ε δ α β : Type} {state reached after : σ}

theorem lift_apply (action : StateM σ α) (state : σ) :
    (liftM action : ExceptT ε (StateM σ) α) state = (.ok (action state).1, (action state).2) :=
  rfl

theorem ofExcept_apply (result : Except ε α) (state : σ) :
    (MonadExcept.ofExcept result : ExceptT ε (StateM σ) α) state = (result, state) := by
  cases result with
  | error error => rfl
  | ok value => rfl

section Bind

variable {action : ExceptT ε (StateM σ) α} {next : α → ExceptT ε (StateM σ) β}

theorem bind_of_ok {value : α} (ended : action state = (.ok value, reached)) :
    (action >>= next : ExceptT ε (StateM σ) β) state = next value reached := by
  simp only [bind, ExceptT.bind, ExceptT.mk, StateT.bind, ended]
  rfl

theorem bind_of_error {error : ε} (ended : action state = (.error error, reached)) :
    (action >>= next : ExceptT ε (StateM σ) β) state = (.error error, reached) := by
  simp only [bind, ExceptT.bind, ExceptT.mk, StateT.bind, ended]
  rfl

theorem bind_pure_apply (action : ExceptT ε (StateM σ) α) (change : α → β) (state : σ) :
    (do return change (← action) : ExceptT ε (StateM σ) β) state =
      ((action state).1.map change, (action state).2) := by
  rcases ended : action state with ⟨answer, reached⟩
  cases answer with
  | error error =>
    rw [bind_of_error ended]
    rfl
  | ok value =>
    rw [bind_of_ok ended]
    rfl

theorem bind_eq_ok {result : β} :
    (action >>= next : ExceptT ε (StateM σ) β) state = (.ok result, after) ↔
      ∃ value reached, action state = (.ok value, reached) ∧
        next value reached = (.ok result, after) := by
  rcases ended : action state with ⟨answer, reached⟩
  cases answer with
  | error error =>
    rw [bind_of_error ended]
    constructor
    · intro failed
      cases failed
    · rintro ⟨value, middle, same, -⟩
      cases same
  | ok value =>
    rw [bind_of_ok ended]
    constructor
    · exact fun succeeded => ⟨value, reached, rfl, succeeded⟩
    · rintro ⟨other, middle, same, succeeded⟩
      cases same
      exact succeeded

theorem bind_eq_error {error : ε} :
    (action >>= next : ExceptT ε (StateM σ) β) state = (.error error, after) ↔
      action state = (.error error, after) ∨ ∃ value reached, action state = (.ok value, reached) ∧
        next value reached = (.error error, after) := by
  rcases ended : action state with ⟨answer, reached⟩
  cases answer with
  | error first =>
    rw [bind_of_error ended]
    constructor
    · rintro ⟨⟩
      exact .inl rfl
    · rintro (same | ⟨value, middle, same, -⟩)
      · cases same
        rfl
      · cases same
  | ok value =>
    rw [bind_of_ok ended]
    constructor
    · exact fun failed => .inr ⟨value, reached, rfl, failed⟩
    · rintro (same | ⟨other, middle, same, failed⟩)
      · cases same
      · cases same
        exact failed

end Bind

section TryCatch

variable {action : ExceptT ε (StateM σ) α} {handler : ε → ExceptT ε (StateM σ) α}

theorem tryCatch_of_ok {value : α} (ended : action state = (.ok value, reached)) :
    (tryCatch action handler : ExceptT ε (StateM σ) α) state = (.ok value, reached) := by
  simp only [tryCatch, tryCatchThe, MonadExceptOf.tryCatch, ExceptT.tryCatch, ExceptT.mk, bind,
    StateT.bind, ended]
  rfl

theorem tryCatch_of_error {error : ε} (ended : action state = (.error error, reached)) :
    (tryCatch action handler : ExceptT ε (StateM σ) α) state = handler error reached := by
  simp only [tryCatch, tryCatchThe, MonadExceptOf.tryCatch, ExceptT.tryCatch, ExceptT.mk, bind,
    StateT.bind, ended]

theorem tryCatch_eq_ok {result : α} :
    (tryCatch action handler : ExceptT ε (StateM σ) α) state = (.ok result, after) ↔
      action state = (.ok result, after) ∨ ∃ error reached, action state = (.error error, reached) ∧
        handler error reached = (.ok result, after) := by
  rcases ended : action state with ⟨answer, reached⟩
  cases answer with
  | error error =>
    rw [tryCatch_of_error ended]
    constructor
    · exact fun succeeded => .inr ⟨error, reached, rfl, succeeded⟩
    · rintro (same | ⟨other, middle, same, succeeded⟩)
      · cases same
      · cases same
        exact succeeded
  | ok value =>
    rw [tryCatch_of_ok ended]
    constructor
    · exact .inl
    · rintro (same | ⟨error, middle, same, -⟩)
      · exact same
      · cases same

theorem tryCatch_eq_error {error : ε} :
    (tryCatch action handler : ExceptT ε (StateM σ) α) state = (.error error, after) ↔
      ∃ first reached, action state = (.error first, reached) ∧
        handler first reached = (.error error, after) := by
  rcases ended : action state with ⟨answer, reached⟩
  cases answer with
  | error first =>
    rw [tryCatch_of_error ended]
    constructor
    · exact fun failed => ⟨first, reached, rfl, failed⟩
    · rintro ⟨other, middle, same, failed⟩
      cases same
      exact failed
  | ok value =>
    rw [tryCatch_of_ok ended]
    constructor
    · intro failed
      cases failed
    · rintro ⟨first, middle, same, -⟩
      cases same

end TryCatch

section Adapt

variable {action : ExceptT ε (StateM σ) α} {rename : ε → δ}

theorem adapt_apply (action : ExceptT ε (StateM σ) α) (rename : ε → δ) (state : σ) :
    action.adapt rename state = ((action state).1.mapError rename, (action state).2) :=
  rfl

theorem adapt_eq_ok {result : α} :
    action.adapt rename state = (.ok result, after) ↔ action state = (.ok result, after) := by
  rw [adapt_apply]
  rcases action state with ⟨answer, reached⟩
  cases answer with
  | error error => constructor <;> rintro ⟨⟩
  | ok value => constructor <;> (rintro ⟨⟩; rfl)

theorem adapt_eq_error {error : δ} :
    action.adapt rename state = (.error error, after) ↔
      ∃ first, action state = (.error first, after) ∧ rename first = error := by
  rw [adapt_apply]
  rcases action state with ⟨answer, reached⟩
  cases answer with
  | error first =>
    constructor
    · rintro ⟨⟩
      exact ⟨first, rfl, rfl⟩
    · rintro ⟨other, same, rfl⟩
      cases same
      rfl
  | ok value =>
    constructor
    · intro failed
      cases failed
    · rintro ⟨first, same, -⟩
      cases same

end Adapt

end ClientGem
