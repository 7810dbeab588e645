import ClientGem.Proofs.FileTree.Rooted
import ClientGem.Proofs.FileTree.Settled

/-!
What is left when a file cannot be written. Directories may have been added, and nothing stays in
the temporary place of the file.
-/

namespace ClientGem.FileTree

open FilePath Output

section Added

variable {working : Location} {paths : List FilePath} {before after : FileTree}

/-- Directories have been added where nothing was, each at the place of one of the paths. -/
def Adds (working : Location) (paths : List FilePath) (before after : FileTree) : Prop :=
  ∀ location, after.get? location = before.get? location ∨
    before.get? location = none ∧ after.get? location = some .directory ∧
      ∃ path ∈ paths, after.locate working path = .ok (some location)

theorem Adds.kept (adds : Adds working paths before after) : DirectoriesIn before after := by
  intro location isOpen
  have there := isDirectory_iff.mp isOpen
  rcases adds location with same | ⟨absent, -⟩
  · exact isDirectory_iff.mpr (same.trans there)
  · rw [absent] at there
    cases there

theorem Adds.fileAt? (adds : Adds working paths before after) (location : Location) :
    after.fileAt? location = before.fileAt? location := by
  rcases adds location with same | ⟨absent, there, -⟩
  · exact fileAt?_congr same
  · rw [FileTree.fileAt?, FileTree.fileAt?, absent, there]

instance (working : Location) (paths : List FilePath) : Std.Refl (Adds working paths) where
  refl _ _ := .inl rfl

instance (working : Location) (paths : List FilePath) :
    IsTrans FileTree (Adds working paths) where
  trans before middle after first second := by
    intro location
    rcases second location with same | ⟨absent, there, leads⟩
    · rcases first location with same' | ⟨absent, there, path, member, located⟩
      · exact .inl (same.trans same')
      · exact .inr ⟨absent, same.trans there, path, member, locate_eq second.kept located⟩
    · rcases first location with same | ⟨-, there', -⟩
      · exact .inr ⟨same.symm.trans absent, there, leads⟩
      · rw [absent] at there'
        cases there'

theorem adds_makeDirectory {path : FilePath} (member : path ∈ paths) :
    Along (Adds working paths) ((disk working).makeDirectory path) := by
  apply along_apply
  intro tree changed made location
  obtain ⟨located, absent, rfl⟩ := makeDirectory_eq_ok.mp made
  have ne_nil := ne_nil_of_get? absent
  rw [get?_insert _ _ _ _ ne_nil]
  split
  · next here =>
    have kept : DirectoriesIn tree (tree.insert (destination working path) .directory) := by
      intro other isOpen
      rw [isDirectory_insert ne_nil]
      split
      · rfl
      · exact isOpen
    rw [here]
    exact .inr ⟨absent, rfl, path, member, locate_eq kept located⟩
  · exact .inl rfl

theorem adds_makeLineage : Along (Adds working paths) ((disk working).makeLineage paths) :=
  along_makeLineage fun _ => adds_makeDirectory

end Added

section Lineage

variable {working : Location} {path : FilePath} {tree after : FileTree}

theorem unlessDirectory_eq_error {fault error : FileFault}
    (failed : (disk working).unlessDirectory path fault tree = (.error error, after)) :
    after.kind? working path ≠ some .directory := by
  rw [unlessDirectory_apply] at failed
  split at failed
  · cases failed
  · next closed =>
    cases failed
    exact closed

theorem kind?_parent {parent : FilePath} (isParent : path.parent? = some parent)
    (nonempty : parent.isEmpty = false) (found : tree.kind? working path = some .directory) :
    tree.kind? working parent = some .directory := by
  have member : parent ∈ path.ancestors := by
    rw [ancestors_of_parent isParent]
    exact List.mem_cons_self
  obtain ⟨absolute, rest, ne_nil, steps⟩ := steps_of_mem_ancestors member
  obtain ⟨checked, location, followed, isOpen⟩ := kind?_eq_directory.mp found
  exact kind?_of_deeper nonempty (text_parent_isPrefix isParent) absolute ne_nil steps
    (lookup_eq_ok.mpr ⟨checked, location, followed, isDirectory_iff.mp isOpen, fun _ => rfl⟩)

theorem makeLineage_eq_error {higher : List FilePath} {error : FileFault}
    (failed : (disk working).makeLineage (path :: higher) tree = (.error error, after)) :
    path.isEmpty = false ∧ (after.kind? working path ≠ some .directory ∨
      (disk working).makeLineage higher tree = (.error error, after)) := by
  rw [Disk.makeLineage] at failed
  split at failed
  · cases failed
  · next nonempty =>
    refine ⟨by simpa using nonempty, ?_⟩
    obtain ⟨fault, middle, refused, ended⟩ := tryCatch_eq_error.mp failed
    obtain ⟨-, rfl⟩ := apply_eq_error.mp refused
    split at ended
    · rcases bind_eq_error.mp ended with stopped | ⟨-, middle, -, retried⟩
      · exact .inr stopped
      · obtain ⟨fault', last, -, ended⟩ := tryCatch_eq_error.mp retried
        exact .inl (unlessDirectory_eq_error ended)
    · exact .inl (unlessDirectory_eq_error ended)

/-- Where a directory could not be made with those above it, there is none. -/
theorem kind?_of_makeLineage_error {error : FileFault}
    (failed : (disk working).makeLineage (path :: path.ancestors) tree = (.error error, after)) :
    path.isEmpty = false ∧ after.kind? working path ≠ some .directory := by
  generalize same : path.ancestors = higher at failed
  induction higher generalizing path with
  | nil =>
    obtain ⟨nonempty, missing | stopped⟩ := makeLineage_eq_error failed
    · exact ⟨nonempty, missing⟩
    · cases stopped
  | cons parent higher ih =>
    have isParent : path.parent? = some parent := by
      rw [parent?, same, List.head?_cons]
    have further : parent.ancestors = higher := by
      have ancestors := ancestors_of_parent isParent
      rw [same] at ancestors
      exact (List.cons.inj ancestors).2.symm
    obtain ⟨nonempty, missing | stopped⟩ := makeLineage_eq_error failed
    · exact ⟨nonempty, missing⟩
    · obtain ⟨parent_nonempty, missing⟩ := ih further stopped
      exact ⟨nonempty, fun found => missing (kind?_parent isParent parent_nonempty found)⟩

end Lineage

section Refused

variable {working : Location} {path : FilePath} {content : String}
  {tree grown written after : FileTree}

def Prepared (working : Location) (path : FilePath) (tree grown : FileTree) : Prop :=
  match path.parent? with
  | some parent => (disk working).makeDirectories parent tree = (.ok (), grown)
  | none => tree = grown

theorem removeFile_of_file {bytes : ByteArray}
    (located : tree.locate working path = .ok (some (destination working path)))
    (open_end : path.endsInSlash = false)
    (found : tree.get? (destination working path) = some (.file bytes)) :
    tree.removeFile working path = .ok (tree.erase (destination working path)) := by
  simp [removeFile, located, found, open_end, bind, Except.bind]

theorem removeFile_of_write {bytes : ByteArray}
    (wrote : grown.write working path bytes = .ok written) :
    written.removeFile working path = .ok (written.erase (destination working path)) := by
  obtain ⟨located, open_end, closed, rfl⟩ := write_eq_ok.mp wrote
  have kept : DirectoriesIn grown (grown.insert (destination working path) (.file bytes)) :=
    fun location isOpen => (isDirectory_insert_file closed bytes location).trans isOpen
  have found : (grown.insert (destination working path) (.file bytes)).get?
      (destination working path) = some (.file bytes) := by
    rw [get?_insert _ _ _ _ (ne_nil_of_isDirectory closed), if_pos rfl]
  exact removeFile_of_file (locate_eq kept located) open_end found

theorem place_eq_error {error : WriteError}
    (failed : place working path content grown = (.error error, after)) :
    (∃ fault, grown.write working path.temporary content.toUTF8 = .error fault ∧ grown = after) ∨
      ∃ written, grown.write working path.temporary content.toUTF8 = .ok written ∧
        after = written.erase (destination working path.temporary) := by
  rw [place, bind_eq_error] at failed
  rcases failed with refused | ⟨_, written, wrote, moved⟩
  · obtain ⟨fault, refused, -⟩ := adapt_eq_error.mp refused
    exact .inl ⟨fault, apply_eq_error.mp refused⟩
  · have wrote := apply_eq_ok.mp (adapt_eq_ok.mp wrote)
    obtain ⟨first, middle, refused, undone⟩ := tryCatch_eq_error.mp moved
    obtain ⟨fault, refused, -⟩ := adapt_eq_error.mp refused
    obtain ⟨-, rfl⟩ := apply_eq_error.mp refused
    have removed : ((disk working).removeFile path.temporary).run written =
        (.ok (), written.erase (destination working path.temporary)) :=
      apply_eq_ok.mpr (removeFile_of_write wrote)
    have lifted : (liftM ((disk working).removeFile path.temporary).run :
        ExceptT WriteError (StateM FileTree) (Except FileFault Unit)) written =
          (.ok (.ok ()), written.erase (destination working path.temporary)) :=
      congrArg (fun ending : Except FileFault Unit × FileTree =>
        ((.ok ending.1 : Except WriteError _), ending.2)) removed
    rcases bind_eq_error.mp undone with none | ⟨answer, last, removed, thrown⟩
    · rw [lifted] at none
      cases none
    · rw [lifted] at removed
      cases removed
      cases thrown
      exact .inr ⟨written, wrote, rfl⟩

/-- A file is refused where its directory cannot be made, where it cannot be written beside its
place, or where it cannot be moved there. In the last case it is removed again. -/
theorem writeAtomic_eq_error {error : WriteError}
    (failed : (disk working).writeAtomic path content tree = (.error error, after)) :
    (∃ parent fault, path.parent? = some parent ∧
      (disk working).makeDirectories parent tree = (.error fault, after)) ∨
    ∃ grown, Prepared working path tree grown ∧
      ((∃ fault, grown.write working path.temporary content.toUTF8 = .error fault ∧ grown = after) ∨
        ∃ written, grown.write working path.temporary content.toUTF8 = .ok written ∧
          after = written.erase (destination working path.temporary)) := by
  rw [writeAtomic_eq] at failed
  cases isParent : path.parent? with
  | none =>
    rw [isParent] at failed
    have prepared : Prepared working path tree tree := by
      rw [Prepared, isParent]
    exact .inr ⟨tree, prepared, place_eq_error failed⟩
  | some parent =>
    rw [isParent] at failed
    rcases bind_eq_error.mp failed with refused | ⟨_, grown, made, failed⟩
    · obtain ⟨fault, refused, -⟩ := adapt_eq_error.mp refused
      exact .inl ⟨parent, fault, rfl, refused⟩
    · have prepared : Prepared working path tree grown := by
        rw [Prepared, isParent]
        exact adapt_eq_ok.mp made
      exact .inr ⟨grown, prepared, place_eq_error failed⟩

end Refused

end ClientGem.FileTree
