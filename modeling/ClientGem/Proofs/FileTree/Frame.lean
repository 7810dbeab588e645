import ClientGem.Proofs.FileTree.Along
import ClientGem.Proofs.FileTree.Destination

/-!
What the calls of a disk leave alone. A call that succeeds changes a tree at the places where its
paths lead, and nowhere else; files elsewhere keep their content.
-/

namespace ClientGem.FileTree

open Output

section Calls

variable {working : Location} {path source target : FilePath} {content : ByteArray}
  {tree changed : FileTree}

theorem ne_nil_of_get? {location : Location} (absent : tree.get? location = none) :
    location ≠ [] := by
  rintro rfl
  cases absent

theorem ne_nil_of_isDirectory {location : Location} (closed : tree.isDirectory location = false) :
    location ≠ [] := by
  rintro rfl
  cases closed

/-- What goes on at the place of a path goes on where the path leads, or at no place. -/
theorem bind_locate_eq_ok {α : Type} {next : Option Location → Except FileFault α} {result : α}
    (succeeded : tree.locate working path >>= next = .ok result) : next none = .ok result ∨
      tree.locate working path = .ok (some (destination working path)) ∧
        next (some (destination working path)) = .ok result := by
  cases located : tree.locate working path with
  | error fault =>
    rw [located] at succeeded
    cases succeeded
  | ok place =>
    rw [located] at succeeded
    cases place with
    | none => exact .inl succeeded
    | some location =>
      rw [locate_eq_destination located] at succeeded ⊢
      exact .inr ⟨rfl, succeeded⟩

theorem makeDirectory_eq_ok : tree.makeDirectory working path = .ok changed ↔
    tree.locate working path = .ok (some (destination working path)) ∧
      tree.get? (destination working path) = none ∧
      changed = tree.insert (destination working path) .directory := by
  constructor
  · intro made
    rcases bind_locate_eq_ok made with nowhere | ⟨located, made⟩
    · cases nowhere
    · dsimp only at made
      split at made
      · cases made
      · next free => exact ⟨located, by simpa using free, (Except.ok.inj made).symm⟩
  · rintro ⟨located, absent, rfl⟩
    simp [makeDirectory, located, absent, bind, Except.bind]

theorem write_eq_ok : tree.write working path content = .ok changed ↔
    tree.locate working path = .ok (some (destination working path)) ∧
      path.endsInSlash = false ∧ tree.isDirectory (destination working path) = false ∧
      changed = tree.insert (destination working path) (.file content) := by
  constructor
  · intro written
    rcases bind_locate_eq_ok written with nowhere | ⟨located, written⟩
    · cases nowhere
    · dsimp only at written
      split at written
      · cases written
      · next closed =>
        rw [Bool.not_eq_true, Bool.or_eq_false_iff] at closed
        exact ⟨located, closed.1, closed.2, (Except.ok.inj written).symm⟩
  · rintro ⟨located, open_end, closed, rfl⟩
    simp [write, located, open_end, closed, bind, Except.bind]

theorem move_eq_ok : tree.move working source target = .ok changed ↔
    tree.locate working source = .ok (some (destination working source)) ∧
      tree.locate working target = .ok (some (destination working target)) ∧
      target.endsInSlash = false ∧ tree.isDirectory (destination working target) = false ∧
      ∃ content, tree.get? (destination working source) = some (.file content) ∧
        changed = (tree.erase (destination working source)).insert (destination working target)
          (.file content) := by
  constructor
  · intro moved
    rcases bind_locate_eq_ok moved with nowhere | ⟨located, moved⟩
    · rcases bind_locate_eq_ok nowhere with nowhere | ⟨-, nowhere⟩
      · cases nowhere
      · cases nowhere
    · rcases bind_locate_eq_ok moved with nowhere | ⟨located', moved⟩
      · cases nowhere
      · dsimp only at moved
        split at moved
        · cases moved
        · cases moved
        · next content found =>
          split at moved
          · cases moved
          · next open_end =>
            split at moved
            · cases moved
            · next closed =>
              exact ⟨located, located', by simpa using open_end, by simpa using closed, content,
                found, (Except.ok.inj moved).symm⟩
  · rintro ⟨located, located', open_end, closed, content, found, rfl⟩
    simp [move, located, located', open_end, closed, found, bind, Except.bind]

theorem removeFile_eq_ok (removed : tree.removeFile working path = .ok changed) :
    ∃ content, tree.get? (destination working path) = some (.file content) ∧
      changed = tree.erase (destination working path) := by
  unfold removeFile at removed
  rcases bind_locate_eq_ok removed with nowhere | ⟨-, removed⟩
  · cases nowhere
  · dsimp only at removed
    split at removed
    · next content found =>
      split at removed
      · cases removed
      · exact ⟨content, found, (Except.ok.inj removed).symm⟩
    · cases removed
    · cases removed

end Calls

def fileAt? (tree : FileTree) (location : Location) : Option ByteArray :=
  match tree.get? location with
  | some (.file content) => some content
  | _ => none

theorem fileAt?_congr {before after : FileTree} {location : Location}
    (same : after.get? location = before.get? location) :
    after.fileAt? location = before.fileAt? location := by
  rw [fileAt?, fileAt?, same]

theorem fileAt?_insert_ne {tree : FileTree} {location other : Location} (ne_nil : location ≠ [])
    (apart : other ≠ location) (node : FileNode) :
    (tree.insert location node).fileAt? other = tree.fileAt? other :=
  fileAt?_congr (by rw [get?_insert tree location other node ne_nil, if_neg apart])

theorem fileAt?_erase_ne {tree : FileTree} {location other : Location} (apart : other ≠ location) :
    (tree.erase location).fileAt? other = tree.fileAt? other := by
  by_cases root : other = []
  · rw [root]
    rfl
  · exact fileAt?_congr (by rw [get?_erase tree location other root, if_neg apart])

theorem fileAt?_insert_directory {tree : FileTree} {location : Location}
    (absent : tree.get? location = none) (other : Location) :
    (tree.insert location .directory).fileAt? other = tree.fileAt? other := by
  by_cases same : other = location
  · rw [fileAt?, fileAt?, get?_insert tree location other _ (ne_nil_of_get? absent), if_pos same,
      same, absent]
  · exact fileAt?_insert_ne (ne_nil_of_get? absent) same .directory

/-- Whatever the tree is, an action leaves its files alone, except at the given locations. -/
def Keeps (touched : Location → Prop) {α : Type} (action : StateM FileTree α) : Prop :=
  ∀ tree location, ¬touched location → (action tree).2.fileAt? location = tree.fileAt? location

def SameFiles (touched : Location → Prop) (before after : FileTree) : Prop :=
  ∀ location, ¬touched location → after.fileAt? location = before.fileAt? location

instance (touched : Location → Prop) : Std.Refl (SameFiles touched) where
  refl _ _ _ := rfl

instance (touched : Location → Prop) : IsTrans FileTree (SameFiles touched) where
  trans _ _ _ first second location apart := (second location apart).trans (first location apart)

theorem keeps_iff_along {touched : Location → Prop} {α : Type} {action : StateM FileTree α} :
    Keeps touched action ↔ Along (SameFiles touched) action :=
  Iff.rfl

section Keeps

variable {touched : Location → Prop} {α ε δ : Type}

theorem keeps_throw (error : ε) : Keeps touched (throw error : ExceptT ε (StateM FileTree) α) :=
  keeps_iff_along.mpr (along_throw error)

theorem keeps_adapt {action : ExceptT ε (StateM FileTree) α} (kept : Keeps touched action)
    (rename : ε → δ) : Keeps touched (action.adapt rename) :=
  kept

theorem keeps_apply {change : FileTree → Change}
    (kept : ∀ {tree changed}, change tree = .ok changed →
      ∀ location, ¬touched location → changed.fileAt? location = tree.fileAt? location) :
    Keeps touched (apply change) :=
  keeps_iff_along.mpr (along_apply kept)

end Keeps

section Disk

variable {touched : Location → Prop} {working : Location}

theorem keeps_makeDirectory (path : FilePath) :
    Keeps touched ((disk working).makeDirectory path) := by
  apply keeps_apply
  intro tree changed made location _
  obtain ⟨-, absent, rfl⟩ := makeDirectory_eq_ok.mp made
  exact fileAt?_insert_directory absent location

theorem keeps_write {path : FilePath} (touches : touched (destination working path))
    (content : ByteArray) : Keeps touched ((disk working).write path content) := by
  apply keeps_apply
  intro tree changed written location apart
  obtain ⟨-, -, closed, rfl⟩ := write_eq_ok.mp written
  apply fileAt?_insert_ne (ne_nil_of_isDirectory closed)
  rintro rfl
  exact apart touches

theorem keeps_move {source target : FilePath} (touches : touched (destination working source))
    (touches' : touched (destination working target)) :
    Keeps touched ((disk working).move source target) := by
  apply keeps_apply
  intro tree changed moved location apart
  obtain ⟨-, -, -, closed, content, -, rfl⟩ := move_eq_ok.mp moved
  have ne_source : location ≠ destination working source := by
    rintro rfl
    exact apart touches
  have ne_target : location ≠ destination working target := by
    rintro rfl
    exact apart touches'
  rw [fileAt?_insert_ne (ne_nil_of_isDirectory closed) ne_target, fileAt?_erase_ne ne_source]

theorem keeps_removeFile {path : FilePath} (touches : touched (destination working path)) :
    Keeps touched ((disk working).removeFile path) := by
  apply keeps_apply
  intro tree changed removed location apart
  obtain ⟨content, -, rfl⟩ := removeFile_eq_ok removed
  apply fileAt?_erase_ne
  rintro rfl
  exact apart touches

/-- To write a file leaves all others alone, but for the one in its temporary place. -/
theorem keeps_writeAtomic {path : FilePath} (touches : touched (destination working path))
    (touches_temporary : touched (destination working path.temporary)) (content : String) :
    Keeps touched ((disk working).writeAtomic path content) :=
  keeps_iff_along.mpr (along_writeAtomic (fun higher _ => keeps_makeDirectory higher)
    (keeps_write touches_temporary _) (keeps_move touches_temporary touches)
    (keeps_removeFile touches_temporary))

theorem keeps_writeFiles {ε : Type} {sink : Sink (StateM FileTree) ε} {files : List File}
    (each : ∀ file ∈ files, Keeps touched (sink file.path file.content)) :
    Keeps touched (writeFiles sink files) :=
  keeps_iff_along.mpr (along_writeFiles each)

end Disk

end ClientGem.FileTree
