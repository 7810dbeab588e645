import ClientGem.FileTree.Calls
import ClientGem.Output.Directory
import ClientGem.Proofs.Action
import ClientGem.Proofs.FilePath.Steps
import Mathlib.Order.Defs.Unbundled

/-!
Actions along which a tree stays related to what it was, whatever they answer. For a relation that
can be chained, it is enough that every call of a disk is such an action.
-/

namespace ClientGem.FileTree

open Output

def Along (related : FileTree → FileTree → Prop) {α : Type} (action : StateM FileTree α) : Prop :=
  ∀ tree, related tree (action tree).2

section Along

variable {related : FileTree → FileTree → Prop} {α β ε δ : Type}

theorem along_adapt {action : ExceptT ε (StateM FileTree) α} (along : Along related action)
    (rename : ε → δ) : Along related (action.adapt rename) :=
  along

theorem along_lift {action : StateM FileTree α} (along : Along related action) :
    Along related (liftM action : ExceptT ε (StateM FileTree) α) :=
  along

section Refl

variable [Std.Refl related]

theorem along_pure (value : α) : Along related (pure value : ExceptT ε (StateM FileTree) α) :=
  Std.Refl.refl

theorem along_throw (error : ε) : Along related (throw error : ExceptT ε (StateM FileTree) α) :=
  Std.Refl.refl

theorem along_ofExcept (result : Except ε α) :
    Along related (MonadExcept.ofExcept result : ExceptT ε (StateM FileTree) α) := by
  intro tree
  rw [ofExcept_apply]
  exact Std.Refl.refl tree

theorem along_apply {change : FileTree → Change}
    (changes : ∀ {tree changed}, change tree = .ok changed → related tree changed) :
    Along related (apply change) := by
  intro tree
  unfold apply
  cases outcome : change tree with
  | error fault => exact Std.Refl.refl tree
  | ok changed => exact changes outcome

end Refl

section Trans

variable [IsTrans FileTree related]

theorem along_bind {action : ExceptT ε (StateM FileTree) α}
    {next : α → ExceptT ε (StateM FileTree) β} (first : Along related action)
    (second : ∀ value, Along related (next value)) :
    Along related (action >>= next : ExceptT ε (StateM FileTree) β) := by
  intro tree
  have moved := first tree
  rcases ended : action tree with ⟨answer, after⟩
  rw [ended] at moved
  cases answer with
  | error error =>
    rw [bind_of_error ended]
    exact moved
  | ok value =>
    rw [bind_of_ok ended]
    exact IsTrans.trans _ _ _ moved (second value after)

theorem along_tryCatch {action : ExceptT ε (StateM FileTree) α}
    {handler : ε → ExceptT ε (StateM FileTree) α} (first : Along related action)
    (second : ∀ error, Along related (handler error)) :
    Along related (tryCatch action handler : ExceptT ε (StateM FileTree) α) := by
  intro tree
  have moved := first tree
  rcases ended : action tree with ⟨answer, after⟩
  rw [ended] at moved
  cases answer with
  | error error =>
    rw [tryCatch_of_error ended]
    exact IsTrans.trans _ _ _ moved (second error after)
  | ok value =>
    rw [tryCatch_of_ok ended]
    exact moved

end Trans

end Along

section Disk

variable {related : FileTree → FileTree → Prop} [Std.Refl related] [IsTrans FileTree related]
  {working : Location}

theorem along_unlessDirectory (path : FilePath) (fault : FileFault) :
    Along related ((disk working).unlessDirectory path fault) := by
  unfold Disk.unlessDirectory
  apply along_bind
  · exact along_lift Std.Refl.refl
  · intro isDirectory
    cases isDirectory with
    | true => exact along_pure ()
    | false => exact along_throw fault

theorem along_makeLineage {lineage : List FilePath}
    (each : ∀ path ∈ lineage, Along related ((disk working).makeDirectory path)) :
    Along related ((disk working).makeLineage lineage) := by
  induction lineage with
  | nil => exact along_pure ()
  | cons path above ih =>
    have made := each path List.mem_cons_self
    rw [Disk.makeLineage]
    split
    · exact along_pure ()
    · apply along_tryCatch made
      intro fault
      split
      · -- The directories above were missing, and are made first.
        apply along_bind (ih fun other member => each other (List.mem_cons_of_mem _ member))
        intro _
        exact along_tryCatch made (along_unlessDirectory path)
      · exact along_unlessDirectory path fault

theorem along_writeAtomic {path : FilePath} {content : String}
    (made : ∀ higher ∈ path.ancestors, Along related ((disk working).makeDirectory higher))
    (written : Along related ((disk working).write path.temporary content.toUTF8))
    (moved : Along related ((disk working).move path.temporary path))
    (removed : Along related ((disk working).removeFile path.temporary)) :
    Along related ((disk working).writeAtomic path content) := by
  -- A file that cannot be moved is removed from its temporary place.
  have undone (error : WriteError) : Along related (do
      let _ ← ((disk working).removeFile path.temporary).run
      throw error : ExceptT WriteError (StateM FileTree) Unit) :=
    along_bind (along_lift removed) fun _ => along_throw error
  have replaced := along_bind (along_adapt written (WriteError.mk path.temporary)) fun _ =>
    along_tryCatch (along_adapt moved (WriteError.mk path)) undone
  rw [Disk.writeAtomic]
  split
  · next parent isParent =>
    rw [FilePath.ancestors_of_parent isParent] at made
    exact along_bind (along_adapt (along_makeLineage made) _) fun _ => replaced
  · exact replaced

theorem along_writeFiles {ε : Type} {sink : Sink (StateM FileTree) ε} {files : List File}
    (each : ∀ file ∈ files, Along related (sink file.path file.content)) :
    Along related (writeFiles sink files) := by
  induction files with
  | nil => exact along_pure []
  | cons file rest ih =>
    rw [writeFiles]
    apply along_bind (each file List.mem_cons_self)
    intro _
    apply along_bind (ih fun other member => each other (List.mem_cons_of_mem _ member))
    intro paths
    exact along_pure _

end Disk

end ClientGem.FileTree
