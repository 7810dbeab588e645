import ClientGem.Proofs.FileTree.Lineage

/-!
Files that are in place. A file is once it has been written, it stays so while other files are
written that have nothing to do with it, and to write it again changes nothing.
-/

namespace ClientGem.FileTree

open FilePath Output

/-- The directory that holds a path is there; none is needed where it has no text. -/
def Held (working : Location) (path : FilePath) (tree : FileTree) : Prop :=
  ∀ parent, path.parent? = some parent →
    parent.isEmpty = true ∨ tree.kind? working parent = some .directory

/-- A file is at its path, and nothing is in its temporary place. -/
structure Settled (working : Location) (path : FilePath) (content : ByteArray) (tree : FileTree) :
    Prop where
  held : Held working path tree
  beside : tree.locate working path.temporary = .ok (some (destination working path.temporary))
  located : tree.locate working path = .ok (some (destination working path))
  open_ends : path.temporary.endsInSlash = false ∧ path.endsInSlash = false
  cleared : tree.get? (destination working path.temporary) = none
  written : tree.get? (destination working path) = some (.file content)

variable {working : Location} {path : FilePath} {tree other after : FileTree}

def place (working : Location) (path : FilePath) (content : String) :
    ExceptT WriteError (StateM FileTree) Unit := do
  naming path.temporary ((disk working).write path.temporary content.toUTF8)
  tryCatch (naming path ((disk working).move path.temporary path)) fun error => do
    let _ ← ((disk working).removeFile path.temporary).run
    throw error

theorem writeAtomic_eq (working : Location) (path : FilePath) (content : String) :
    (disk working).writeAtomic path content =
      match path.parent? with
      | some parent => do
        naming parent ((disk working).makeDirectories parent)
        place working path content
      | none => place working path content := by
  rw [Disk.writeAtomic]
  cases path.parent? <;> rfl

theorem place_eq_ok {content : String} : place working path content tree = (.ok (), after) ↔
    ∃ written, tree.write working path.temporary content.toUTF8 = .ok written ∧
      written.move working path.temporary path = .ok after := by
  rw [place, bind_eq_ok]
  constructor
  · rintro ⟨_, written, wrote, moved⟩
    refine ⟨written, apply_eq_ok.mp (adapt_eq_ok.mp wrote), ?_⟩
    rcases tryCatch_eq_ok.mp moved with done | ⟨error, middle, -, undone⟩
    · exact apply_eq_ok.mp (adapt_eq_ok.mp done)
    · -- Whatever is done after a failed move, the failure is reported.
      obtain ⟨-, removed, -, thrown⟩ := bind_eq_ok.mp undone
      cases thrown
  · rintro ⟨written, wrote, moved⟩
    exact ⟨(), written, adapt_eq_ok.mpr (apply_eq_ok.mpr wrote),
      tryCatch_eq_ok.mpr (.inl (adapt_eq_ok.mpr (apply_eq_ok.mpr moved)))⟩

/-- The directory that holds a file is made, and then the file is written beside its place and
moved there. -/
theorem writeAtomic_eq_ok {content : String} :
    (disk working).writeAtomic path content tree = (.ok (), after) ↔
      ∃ grown written, (match path.parent? with
          | some parent => (disk working).makeDirectories parent tree = (.ok (), grown)
          | none => tree = grown) ∧
        grown.write working path.temporary content.toUTF8 = .ok written ∧
        written.move working path.temporary path = .ok after := by
  rw [writeAtomic_eq]
  cases path.parent? with
  | none =>
    constructor
    · intro placed
      obtain ⟨written, done⟩ := place_eq_ok.mp placed
      exact ⟨tree, written, rfl, done⟩
    · rintro ⟨grown, written, rfl, done⟩
      exact place_eq_ok.mpr ⟨written, done⟩
  | some parent =>
    dsimp only
    rw [bind_eq_ok]
    constructor
    · rintro ⟨_, grown, made, placed⟩
      obtain ⟨written, done⟩ := place_eq_ok.mp placed
      exact ⟨grown, written, adapt_eq_ok.mp made, done⟩
    · rintro ⟨grown, written, made, done⟩
      exact ⟨(), grown, adapt_eq_ok.mpr made, place_eq_ok.mpr ⟨written, done⟩⟩

theorem get?_moved {source target : Location} (source_ne : source ≠ []) (target_ne : target ≠ [])
    (node node' : FileNode) (location : Location) :
    (((tree.insert source node).erase source).insert target node').get? location =
      if location = target then some node'
      else if location = source then none else tree.get? location := by
  rw [get?_insert _ _ _ _ target_ne]
  by_cases root : location = []
  · subst root
    rw [if_neg (Ne.symm target_ne), if_neg (Ne.symm target_ne), if_neg (Ne.symm source_ne)]
    rfl
  · rw [get?_erase _ _ _ root, get?_insert _ _ _ _ source_ne]
    split
    · rfl
    · split
      · rfl
      · rfl

theorem destination_temporary (working : Location) {above : List Component} {name : List Char}
    (ends : path.components = above ++ [.name name]) :
    destination working path = above.foldl afterComponent working ++ [String.ofList name] ∧
      destination working path.temporary =
        above.foldl afterComponent working ++ [String.ofList (name ++ ".tmp".toList)] := by
  rw [destination, destination, ends, components_temporary ends, List.foldl_append,
    List.foldl_append]
  exact ⟨rfl, rfl⟩

theorem temporary_apart {above : List Component} {name : List Char}
    (ends : path.components = above ++ [.name name]) :
    destination working path.temporary ≠ destination working path := by
  obtain ⟨target, temporary⟩ := destination_temporary working ends
  rw [target, temporary]
  intro same
  have names : name ++ ".tmp".toList = name := by
    simpa using (List.append_inj' same rfl).2
  simp at names

theorem Settled.congr {content : ByteArray} (settled : Settled working path content tree)
    (kept : DirectoriesIn tree other)
    (cleared : other.get? (destination working path.temporary) = none)
    (written : other.get? (destination working path) = some (.file content)) :
    Settled working path content other where
  held parent isParent := (settled.held parent isParent).imp_right (kind?_eq kept)
  beside := locate_eq kept settled.beside
  located := locate_eq kept settled.located
  open_ends := settled.open_ends
  cleared := cleared
  written := written

def OnWay (working : Location) (path : FilePath) (location : Location) : Prop :=
  ∃ before after, after ≠ [] ∧ path.steps = before ++ after ∧
    location = before.foldl afterStep (startOf working path)

/-- A file stays in place while other files are changed and directories are made, even one where the
path leads through, since this is there already. -/
theorem Settled.along {touched made : Location → Prop} {content : ByteArray}
    (settled : Settled working path content tree) (same : SameFiles touched tree other)
    (grows : Grows made tree other) (untouched : ¬touched (destination working path))
    (untouched' : ¬touched (destination working path.temporary))
    (onWay : made (destination working path.temporary) →
      OnWay working path (destination working path.temporary)) :
    Settled working path content other := by
  have beside : other.isDirectory (destination working path.temporary) = false := by
    rw [Bool.eq_false_iff]
    intro isOpen
    have wasOpen : tree.isDirectory (destination working path.temporary) = true := by
      rcases grows.new _ isOpen with before | isMade
      · exact before
      · obtain ⟨before, after, ne_nil, steps, leads⟩ := onWay isMade
        rw [leads]
        exact isDirectory_of_locate settled.located ne_nil steps
    rw [isDirectory, settled.cleared] at wasOpen
    cases wasOpen
  refine settled.congr grows.kept ?_ ?_
  · have noFile := same _ untouched'
    rw [fileAt?, fileAt?, settled.cleared] at noFile
    rw [isDirectory] at beside
    cases found : other.get? (destination working path.temporary) with
    | none => rfl
    | some node =>
      rw [found] at noFile beside
      cases node with
      | file content => cases noFile
      | directory => cases beside
  · have isFile := same _ untouched
    rw [fileAt?, fileAt?, settled.written] at isFile
    split at isFile
    · next content' found => rw [found, Option.some.inj isFile]
    · cases isFile

theorem isDirectory_moved {source target : Location} {content : ByteArray}
    (closed : tree.isDirectory source = false)
    (closed' : (tree.insert source (.file content)).isDirectory target = false)
    (location : Location) :
    (((tree.insert source (.file content)).erase source).insert target
      (.file content)).isDirectory location = tree.isDirectory location := by
  have found : (tree.insert source (.file content)).get? source = some (.file content) := by
    rw [get?_insert _ _ _ _ (ne_nil_of_isDirectory closed), if_pos rfl]
  have erased := isDirectory_erase found
  rw [isDirectory_insert_file ((erased target).trans closed'), erased,
    isDirectory_insert_file closed]

theorem settled_of_writeAtomic {content : String} {above : List Component} {name : List Char}
    (ends : path.components = above ++ [.name name])
    (succeeded : (disk working).writeAtomic path content tree = (.ok (), after)) :
    Settled working path content.toUTF8 after := by
  obtain ⟨grown, written, made, wrote, moved⟩ := writeAtomic_eq_ok.mp succeeded
  obtain ⟨beside, open_beside, closed_beside, rfl⟩ := write_eq_ok.mp wrote
  obtain ⟨-, located, open_end, closed, bytes, found, rfl⟩ := move_eq_ok.mp moved
  have ne_beside := ne_nil_of_isDirectory closed_beside
  have ne_target := ne_nil_of_isDirectory closed
  have apart : destination working path.temporary ≠ destination working path :=
    temporary_apart ends
  obtain rfl : content.toUTF8 = bytes := by
    rw [get?_insert _ _ _ _ ne_beside, if_pos rfl] at found
    cases found
    rfl
  have directories := isDirectory_moved closed_beside closed
  have kept : DirectoriesIn grown _ := fun location isOpen => (directories location).trans isOpen
  have held : Held working path grown := by
    intro parent isParent
    rw [isParent] at made
    exact kind?_of_makeLineage made
  constructor
  · exact fun parent isParent => (held parent isParent).imp_right (kind?_eq kept)
  · exact locate_eq kept beside
  · refine locate_eq (fun location isOpen => ?_) located
    rw [isDirectory_insert_file closed_beside] at isOpen
    exact kept location isOpen
  · exact ⟨open_beside, open_end⟩
  · rw [get?_moved ne_beside ne_target, if_neg apart, if_pos rfl]
  · rw [get?_moved ne_beside ne_target, if_pos rfl]

/-- To write a file that is in place leaves everything as it is. -/
theorem Settled.rewrite {content : String} (settled : Settled working path content.toUTF8 tree) :
    ∃ same, (disk working).writeAtomic path content tree = (.ok (), same) ∧
      ∀ location, same.get? location = tree.get? location := by
  have closed_beside : tree.isDirectory (destination working path.temporary) = false := by
    rw [isDirectory, settled.cleared]
    rfl
  have directories := isDirectory_insert_file closed_beside content.toUTF8
  have kept : DirectoriesIn tree _ := fun location isOpen => (directories location).trans isOpen
  have closed := (directories _).trans (closed_of_file settled.written)
  have ne_beside := ne_nil_of_get? settled.cleared
  have ne_target := ne_nil_of_isDirectory closed
  refine ⟨_, writeAtomic_eq_ok.mpr ⟨tree, _, ?_, write_eq_ok.mpr ⟨settled.beside,
    settled.open_ends.1, closed_beside, rfl⟩, move_eq_ok.mpr ⟨locate_eq kept settled.beside,
      locate_eq kept settled.located, settled.open_ends.2, closed, content.toUTF8, ?_, rfl⟩⟩, ?_⟩
  · cases isParent : path.parent? with
    | none => rfl
    | some parent => exact makeLineage_of_directory (settled.held parent isParent)
  · rw [get?_insert _ _ _ _ ne_beside, if_pos rfl]
  · intro location
    rw [get?_moved ne_beside ne_target]
    split
    · next same => rw [same, settled.written]
    · split
      · next same => rw [same, settled.cleared]
      · rfl

end ClientGem.FileTree
