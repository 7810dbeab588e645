import ClientGem.Proofs.FileTree.Frame
import ClientGem.Proofs.FileTree.Reach

/-!
The directories of a tree while files are written into it. None is lost, and one that is new is made
for a path that goes through it.
-/

namespace ClientGem.FileTree

open Output

/-- The directories of a tree are there later on, and others are made only where it is given. -/
structure Grows (made : Location → Prop) (before after : FileTree) : Prop where
  kept : DirectoriesIn before after
  new : ∀ location, after.isDirectory location = true →
    before.isDirectory location = true ∨ made location

instance (made : Location → Prop) : Std.Refl (Grows made) where
  refl _ := ⟨fun _ isOpen => isOpen, fun _ isOpen => .inl isOpen⟩

instance (made : Location → Prop) : IsTrans FileTree (Grows made) where
  trans _ _ _ first second :=
    { kept := fun location isOpen => second.kept location (first.kept location isOpen)
      new := fun location isOpen => (second.new location isOpen).elim (first.new location) .inr }

theorem Grows.of_same {made : Location → Prop} {before after : FileTree}
    (same : ∀ location, after.isDirectory location = before.isDirectory location) :
    Grows made before after where
  kept location isOpen := (same location).trans isOpen
  new location isOpen := .inl ((same location).symm.trans isOpen)

section Directories

variable {tree : FileTree} {location : Location} {content : ByteArray}

theorem isDirectory_insert (ne_nil : location ≠ []) (node : FileNode) (other : Location) :
    (tree.insert location node).isDirectory other =
      if other = location then node.isDirectory else tree.isDirectory other := by
  unfold isDirectory
  rw [get?_insert tree location other node ne_nil]
  split
  · rfl
  · rfl

theorem isDirectory_insert_file (closed : tree.isDirectory location = false) (content : ByteArray)
    (other : Location) :
    (tree.insert location (.file content)).isDirectory other = tree.isDirectory other := by
  rw [isDirectory_insert (ne_nil_of_isDirectory closed)]
  split
  · next same => rw [same, closed]; rfl
  · rfl

theorem closed_of_file (found : tree.get? location = some (.file content)) :
    tree.isDirectory location = false := by
  rw [isDirectory, found]
  rfl

theorem isDirectory_erase (found : tree.get? location = some (.file content)) (other : Location) :
    (tree.erase location).isDirectory other = tree.isDirectory other := by
  by_cases root : other = []
  · rw [root]
    rfl
  · unfold isDirectory
    rw [get?_erase tree location other root]
    split
    · next same => rw [same, found]; rfl
    · rfl

end Directories

section Disk

variable {made : Location → Prop} {working : Location}

theorem grows_makeDirectory {path : FilePath} (isMade : made (destination working path)) :
    Along (Grows made) ((disk working).makeDirectory path) := by
  apply along_apply
  intro tree changed succeeded
  obtain ⟨-, absent, rfl⟩ := makeDirectory_eq_ok.mp succeeded
  have inserted (location : Location) :
      (tree.insert (destination working path) .directory).isDirectory location =
        if location = destination working path then true else tree.isDirectory location :=
    isDirectory_insert (ne_nil_of_get? absent) .directory location
  constructor
  · intro location isOpen
    rw [inserted]
    split
    · rfl
    · exact isOpen
  · intro location isOpen
    rw [inserted] at isOpen
    split at isOpen
    · next same => exact .inr (same ▸ isMade)
    · exact .inl isOpen

theorem grows_write (path : FilePath) (content : ByteArray) :
    Along (Grows made) ((disk working).write path content) := by
  apply along_apply
  intro tree changed succeeded
  obtain ⟨-, -, closed, rfl⟩ := write_eq_ok.mp succeeded
  exact .of_same (isDirectory_insert_file closed content)

theorem grows_move (source target : FilePath) :
    Along (Grows made) ((disk working).move source target) := by
  apply along_apply
  intro tree changed succeeded
  obtain ⟨-, -, -, closed, content, found, rfl⟩ := move_eq_ok.mp succeeded
  have erased := isDirectory_erase found
  apply Grows.of_same
  intro location
  rw [isDirectory_insert_file ((erased _).trans closed), erased]

theorem grows_removeFile (path : FilePath) :
    Along (Grows made) ((disk working).removeFile path) := by
  apply along_apply
  intro tree changed succeeded
  obtain ⟨content, found, rfl⟩ := removeFile_eq_ok succeeded
  exact .of_same (isDirectory_erase found)

theorem grows_writeAtomic {path : FilePath}
    (through : ∀ higher ∈ path.ancestors, made (destination working higher)) (content : String) :
    Along (Grows made) ((disk working).writeAtomic path content) :=
  along_writeAtomic (fun higher member => grows_makeDirectory (through higher member))
    (grows_write _ _) (grows_move _ _) (grows_removeFile _)

end Disk

end ClientGem.FileTree
