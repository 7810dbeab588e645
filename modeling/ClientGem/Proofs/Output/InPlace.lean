import ClientGem.Proofs.FileTree.Settled
import ClientGem.Proofs.Output.Writes

/-!
Files written into a directory one after another. Where none of them has to do with another, all are
in place at the end, and to write them again changes nothing.
-/

namespace ClientGem.Output

open FilePath FileTree

def Touches (working : Location) (path : FilePath) (location : Location) : Prop :=
  location = destination working path ∨ location = destination working path.temporary

/-- A file that is written later has nothing to do with an earlier one: no directory is made for it
where the earlier one was kept before, unless the earlier path leads there itself. -/
structure Apart (working : Location) (earlier later : FilePath) : Prop where
  target : ¬Touches working later (destination working earlier)
  temporary : ¬Touches working later (destination working earlier.temporary)
  through : ∀ higher ∈ later.ancestors,
    destination working earlier.temporary = destination working higher →
      OnWay working earlier (destination working earlier.temporary)

def TouchedBy (working : Location) (root : FilePath) (files : List File) (location : Location) :
    Prop :=
  ∃ file ∈ files, Touches working (root.join file.path) location

def AboveOne (working : Location) (root : FilePath) (files : List File) (location : Location) :
    Prop :=
  ∃ file ∈ files, ∃ higher ∈ (root.join file.path).ancestors, location = destination working higher

theorem sameFiles_writeFiles (working : Location) (root : FilePath) (files : List File) :
    Along (SameFiles (TouchedBy working root files))
      (writeFiles (directorySink (disk working) root) files) := by
  apply along_writeFiles
  intro file member
  exact keeps_iff_along.mp (keeps_writeAtomic ⟨file, member, .inl rfl⟩ ⟨file, member, .inr rfl⟩ _)

theorem grows_writeFiles (working : Location) (root : FilePath) (files : List File) :
    Along (Grows (AboveOne working root files))
      (writeFiles (directorySink (disk working) root) files) := by
  apply along_writeFiles
  intro file member
  exact grows_writeAtomic (fun higher above => ⟨file, member, higher, above, rfl⟩) _

def IsNamed (path : FilePath) : Prop :=
  ∃ above name, path.components = above ++ [.name name]

section Directory

variable {working : Location} {root : FilePath}

/-- All files are in place once they have been written. -/
theorem settled_of_writeFiles {files : List File} {paths : List FilePath} {before after : FileTree}
    (named : ∀ file ∈ files, IsNamed (root.join file.path))
    (apart : files.Pairwise fun earlier later =>
      Apart working (root.join earlier.path) (root.join later.path))
    (succeeded : writeFiles (directorySink (disk working) root) files before = (.ok paths, after)) :
    paths = files.map File.path ∧ ∀ file ∈ files,
      Settled working (root.join file.path) file.content.toUTF8 after := by
  induction files generalizing before paths with
  | nil =>
    cases succeeded
    exact ⟨rfl, by simp⟩
  | cons file rest ih =>
    obtain ⟨apart_file, apart_rest⟩ := List.pairwise_cons.mp apart
    rw [writeFiles_cons] at succeeded
    split at succeeded
    · next next written =>
      split at succeeded
      · next paths' last others =>
        obtain ⟨rfl, rfl⟩ : file.path :: paths' = paths ∧ last = after := by
          cases succeeded
          exact ⟨rfl, rfl⟩
        have named_rest : ∀ other ∈ rest, IsNamed (root.join other.path) := by
          intro other member
          exact named other (List.mem_cons_of_mem _ member)
        obtain ⟨rfl, inPlace⟩ := ih named_rest apart_rest others
        obtain ⟨above, name, ends⟩ := named file List.mem_cons_self
        have settled : Settled working (root.join file.path) file.content.toUTF8 next :=
          settled_of_writeAtomic ends written
        have same := sameFiles_writeFiles working root rest next
        have grows := grows_writeFiles working root rest next
        rw [others] at same grows
        refine ⟨rfl, List.forall_mem_cons.mpr ⟨?_, inPlace⟩⟩
        refine settled.along same grows ?_ ?_ ?_
        · rintro ⟨other, member, touches⟩
          exact (apart_file other member).target touches
        · rintro ⟨other, member, touches⟩
          exact (apart_file other member).temporary touches
        · rintro ⟨other, member, higher, above, leads⟩
          exact (apart_file other member).through higher above leads
      · cases succeeded
    · cases succeeded

theorem rewrite_of_settled {files : List File} {tree : FileTree}
    (settled : ∀ file ∈ files, Settled working (root.join file.path) file.content.toUTF8 tree) :
    ∃ same, writeFiles (directorySink (disk working) root) files tree =
        (.ok (files.map File.path), same) ∧
      ∀ location, same.get? location = tree.get? location := by
  induction files generalizing tree with
  | nil => exact ⟨tree, rfl, fun _ => rfl⟩
  | cons file rest ih =>
    obtain ⟨first, others⟩ := List.forall_mem_cons.mp settled
    obtain ⟨next, written, unchanged⟩ := first.rewrite
    have kept : DirectoriesIn tree next := by
      intro location isOpen
      rw [isDirectory_iff] at isOpen ⊢
      rw [unchanged, isOpen]
    obtain ⟨last, rewritten, unchanged'⟩ := ih fun other member =>
      (others other member).congr kept ((unchanged _).trans (others other member).cleared)
        ((unchanged _).trans (others other member).written)
    have wrote : directorySink (disk working) root file.path file.content tree = (.ok (), next) :=
      written
    refine ⟨last, ?_, fun location => (unchanged' location).trans (unchanged location)⟩
    rw [writeFiles_cons, wrote]
    simp only [rewritten]
    rfl

end Directory

end ClientGem.Output
