import ClientGem.Proofs.Output.Writes

/-!
A sink seen through a view of its state. Where it takes every file as another sink does in the state
that is seen, it cannot be told from that sink by any number of files.
-/

namespace ClientGem.Output

variable {σ τ ε δ α β : Type} {view : σ → τ}

/-- The action answers what the other one answers in the state that is seen, and leaves a state that
is seen as the one that the other leaves. -/
def ShowsAs (view : σ → τ) (action : ExceptT ε (StateM σ) α) (other : ExceptT ε (StateM τ) α) :
    Prop :=
  ∀ state, other (view state) = ((action state).1, view (action state).2)

namespace ShowsAs

theorem pure (value : α) : ShowsAs view (Pure.pure value : ExceptT ε (StateM σ) α)
    (Pure.pure value : ExceptT ε (StateM τ) α) :=
  fun _ => rfl

theorem bind {action : ExceptT ε (StateM σ) α} {other : ExceptT ε (StateM τ) α}
    {next : α → ExceptT ε (StateM σ) β} {otherNext : α → ExceptT ε (StateM τ) β}
    (first : ShowsAs view action other)
    (second : ∀ value, ShowsAs view (next value) (otherNext value)) :
    ShowsAs view (action >>= next : ExceptT ε (StateM σ) β)
      (other >>= otherNext : ExceptT ε (StateM τ) β) := by
  intro state
  have seen := first state
  rcases ended : action state with ⟨answer, after⟩
  rw [ended] at seen
  cases answer with
  | error error => rw [bind_of_error ended, bind_of_error seen]
  | ok value =>
    rw [bind_of_ok ended, bind_of_ok seen]
    exact second value after

theorem adapt {action : ExceptT ε (StateM σ) α} {other : ExceptT ε (StateM τ) α}
    (shows : ShowsAs view action other) (rename : ε → δ) :
    ShowsAs view (action.adapt rename) (other.adapt rename) := by
  intro state
  rw [adapt_apply, adapt_apply, shows state]

end ShowsAs

variable {sink : Sink (StateM σ) ε} {other : Sink (StateM τ) ε}

theorem view_stateAfter
    (shows : ∀ path content, ShowsAs view (sink path content) (other path content))
    (start : σ) (files : List File) :
    view (stateAfter sink start files) = stateAfter other (view start) files := by
  induction files generalizing start with
  | nil => rfl
  | cons file files ih =>
    have first : stateAfter other (view start) [file] = view (stateAfter sink start [file]) :=
      congrArg Prod.snd (shows file.path file.content start)
    rw [← List.singleton_append, stateAfter_append, stateAfter_append, ih, first]

theorem answerAfter_view
    (shows : ∀ path content, ShowsAs view (sink path content) (other path content)) (start : σ)
    (earlier : List File) (file : File) :
    answerAfter sink start earlier file = answerAfter other (view start) earlier file := by
  rw [answerAfter, answerAfter, ← view_stateAfter shows, shows]

end ClientGem.Output
