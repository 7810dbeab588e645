import ClientGem.Proofs.Output.Apart
import ClientGem.Proofs.Output.Memory

/-!
Files written into an empty directory, beside the same files written into memory. Both hold the
same, but for files that lay where a later one was kept before it was moved to its place.
-/

namespace ClientGem.Output

open FilePath FileTree

section Names

variable {path : FilePath}

theorem destination_join_names {names : List String} (leads : path.components = componentsOf names)
    (working : Location) (root : FilePath) :
    destination working (root.join path) = destination working root ++ names := by
  have behind (location : Location) :
      (componentsOf names).foldl afterComponent location = location ++ names := by
    clear leads
    induction names generalizing location with
    | nil => simp [componentsOf]
    | cons name names ih => simpa [componentsOf, afterComponent] using ih (location ++ [name])
  rw [destination, components_join root (start_of_names leads), leads, List.foldl_append, behind,
    destination]

variable {place : Place} (leads : path.components = componentsOf place.names)
include leads

theorem components_temporary_names :
    path.temporary.components = componentsOf place.beside.names := by
  have ends : path.components = componentsOf place.above ++ [.name place.name.toList] := by
    rw [leads, componentsOf, Place.names, List.map_append]
    rfl
  rw [components_temporary ends]
  simp [componentsOf, Place.names, Place.beside]

theorem components_join_names (root : FilePath) : (root.join path).components =
    (root.components ++ componentsOf place.above) ++ [.name place.name.toList] := by
  rw [components_join root (start_of_names leads), leads, componentsOf, Place.names,
    List.map_append, ← List.append_assoc]
  rfl

theorem destination_temporary_names (working : Location) (root : FilePath) :
    destination working (root.join path).temporary =
      destination working root ++ place.beside.names := by
  obtain ⟨target, temporary⟩ := destination_temporary working (components_join_names leads root)
  rw [destination_join_names leads, Place.names, ← List.append_assoc] at target
  rw [temporary, ← (List.append_inj' target rfl).1]
  simp [Place.names, Place.beside]

end Names

section Step

variable {working : Location} {root : FilePath} {file : File} {before after : FileTree}

theorem exists_place (plain : file.path.IsPlain)
    (isOpen : before.isDirectory (destination working root) = true)
    (written : directorySink (disk working) root file.path file.content before = (.ok (), after)) :
    ∃ place : Place, file.path.components = componentsOf place.names := by
  obtain ⟨names, leads⟩ := exists_componentsOf plain
  rcases List.eq_nil_or_concat' names with rfl | ⟨above, name, rfl⟩
  · -- The file would have been moved to where the directory still is.
    have grows : Along (Grows fun _ => True)
        (directorySink (disk working) root file.path file.content) :=
      grows_writeAtomic (fun _ _ => trivial) _
    have stays := (grows before).kept _ isOpen
    rw [written] at stays
    obtain ⟨grown, middle, -, -, moved⟩ := writeAtomic_eq_ok.mp written
    obtain ⟨-, -, -, closed, content, -, rfl⟩ := move_eq_ok.mp moved
    rw [isDirectory_insert (ne_nil_of_isDirectory closed), destination_join_names leads,
      List.append_nil, if_pos rfl] at stays
    cases stays
  · exact ⟨⟨above, name⟩, leads⟩

/-- What is found once a file has been written: nothing where it was kept before, and its content at
its place. -/
theorem fileAt?_of_written {place : Place} (leads : file.path.components = componentsOf place.names)
    (written : directorySink (disk working) root file.path file.content before = (.ok (), after))
    (location : Location) : after.fileAt? location =
      if location = destination working root ++ place.beside.names then none
      else if location = destination working root ++ place.names then some file.content.toUTF8
      else before.fileAt? location := by
  have settled := settled_of_writeAtomic (components_join_names leads root) written
  have target := destination_join_names leads working root
  have temporary := destination_temporary_names leads working root
  split
  · next beside => rw [beside, ← temporary, fileAt?, settled.cleared]
  · split
    · next here => rw [here, ← target, fileAt?, settled.written]
    · next apart' apart =>
      have kept : Keeps (Touches working (root.join file.path))
          (directorySink (disk working) root file.path file.content) :=
        keeps_writeAtomic (.inl rfl) (.inr rfl) file.content
      have same := kept before location
      rw [written] at same
      apply same
      rintro (isTarget | isTemporary)
      · exact apart (isTarget.trans target)
      · exact apart' (isTemporary.trans temporary)

end Step

def left? (names : List String) (files : List File) : Option String :=
  files.foldl (fun held file =>
    if file.path.temporary.components = componentsOf names then none
    else if file.path.components = componentsOf names then some file.content else held) none

theorem left?_concat (names : List String) (files : List File) (file : File) :
    left? names (files ++ [file]) =
      if file.path.temporary.components = componentsOf names then none
      else if file.path.components = componentsOf names then some file.content
      else left? names files :=
  List.foldl_append

theorem exists_file_of_left? {names : List String} {files : List File} {text : String}
    (found : left? names files = some text) :
    ∃ file ∈ files, file.path.components = componentsOf names := by
  induction files using List.reverseRecOn with
  | nil => cases found
  | append_singleton files file ih =>
    rw [left?_concat] at found
    split at found
    · cases found
    · split at found
      · next leads => exact ⟨file, by simp, leads⟩
      · obtain ⟨other, member, leads⟩ := ih found
        exact ⟨other, List.mem_append_left _ member, leads⟩

/-- What is found below a directory that was empty is what the files have left. -/
theorem fileAt?_stateAfter {working : Location} {root : FilePath} {before : FileTree}
    {files : List File} (plain : ∀ file ∈ files, file.path.IsPlain)
    (isOpen : before.isDirectory (destination working root) = true)
    (empty : ∀ names, before.fileAt? (destination working root ++ names) = none)
    (takes : Takes (directorySink (disk working) root) before files) :
    (stateAfter (directorySink (disk working) root) before files).isDirectory
        (destination working root) = true ∧
      ∀ names, (stateAfter (directorySink (disk working) root) before files).fileAt?
        (destination working root ++ names) = (left? names files).map String.toUTF8 := by
  induction files using List.reverseRecOn with
  | nil => exact ⟨isOpen, empty⟩
  | append_singleton files file ih =>
    obtain ⟨takesBefore, answer⟩ := takes_concat takes
    obtain ⟨open_before, found_before⟩ :=
      ih (fun other member => plain other (List.mem_append_left _ member)) takesBefore
    have whole : stateAfter (directorySink (disk working) root) before (files ++ [file]) =
        (directorySink (disk working) root file.path file.content
          (stateAfter (directorySink (disk working) root) before files)).2 :=
      stateAfter_append files [file]
    rw [answerAfter] at answer
    rw [whole]
    generalize stateAfter (directorySink (disk working) root) before files = middle at *
    rcases written : directorySink (disk working) root file.path file.content middle with
      ⟨result, after⟩
    rw [written] at answer
    obtain rfl : result = .ok () := answer
    have isPlain := plain file (by simp)
    obtain ⟨place, leads⟩ := exists_place isPlain open_before written
    have grows : Along (Grows fun _ => True)
        (directorySink (disk working) root file.path file.content) :=
      grows_writeAtomic (fun _ _ => trivial) _
    have stays := (grows middle).kept _ open_before
    rw [written] at stays
    refine ⟨stays, fun names => ?_⟩
    rw [fileAt?_of_written leads written, found_before, left?_concat, leads,
      components_temporary_names leads]
    simp only [List.append_cancel_left_eq, componentsOf_injective.eq_iff, eq_comm (a := names)]
    split
    · rfl
    · split <;> rfl

/-- Since the path was last written to, another file has been kept there before it was moved to its
place. -/
def Displaced (files : List File) (path : FilePath) : Prop :=
  ∃ earlier file later, files = earlier ++ file :: later ∧
    file.path.temporary.same path = true ∧ ∀ other ∈ later, other.path.same path = false

theorem displaced_concat {files : List File} {file : File} {path : FilePath} :
    Displaced (files ++ [file]) path ↔ file.path.temporary.same path = true ∨
      file.path.same path = false ∧ Displaced files path := by
  constructor
  · rintro ⟨earlier, other, later, split, temporary, apart⟩
    rcases List.eq_nil_or_concat' later with rfl | ⟨later, last, rfl⟩
    · obtain ⟨-, same⟩ := List.append_inj' split rfl
      rw [List.head_eq_of_cons_eq same]
      exact .inl temporary
    · rw [← List.cons_append, ← List.append_assoc] at split
      obtain ⟨before, same⟩ := List.append_inj' split rfl
      rw [List.forall_mem_append] at apart
      rw [List.head_eq_of_cons_eq same]
      exact .inr ⟨apart.2 last (List.mem_singleton_self last), earlier, other, later, before,
        temporary, apart.1⟩
  · rintro (temporary | ⟨apart, earlier, other, later, rfl, temporary, apart'⟩)
    · exact ⟨files, file, [], rfl, temporary, by simp⟩
    · refine ⟨earlier, other, later ++ [file], by simp, temporary, ?_⟩
      rw [List.forall_mem_append]
      exact ⟨apart', by simpa using apart⟩

/-- What is left at a path is what was last written to it, unless this has been displaced. -/
theorem left?_eq {path : FilePath} {names : List String}
    (leads : path.components = componentsOf names) (files : List File) :
    (Displaced files path → left? names files = none) ∧
      (¬Displaced files path → left? names files = lastWritten? files path) := by
  induction files using List.reverseRecOn with
  | nil => exact ⟨fun _ => rfl, fun _ => rfl⟩
  | append_singleton files file ih =>
    rw [left?_concat, lastWritten?_concat, displaced_concat, ← leads]
    simp only [← FilePath.same_iff]
    by_cases temporary : file.path.temporary.same path = true
    · simp [temporary]
    · by_cases same : file.path.same path = true
      · simp [temporary, same]
      · simpa [temporary, same] using ih

/-- The files below a directory are those held in memory, with the same content, except where one
has been displaced. -/
structure HoldsUndisplaced (working : Location) (root : FilePath) (files : List File)
    (memory : Memory) (tree : FileTree) : Prop where
  held : ∀ path text, memory.get? path = some text → ¬Displaced files path →
    tree.fileAt? (destination working (root.join path)) = some text.toUTF8
  displaced : ∀ path, path.IsPlain → Displaced files path →
    tree.fileAt? (destination working (root.join path)) = none
  only : ∀ location content, destination working root <+: location →
    tree.fileAt? location = some content → ∃ path text, memory.get? path = some text ∧
      ¬Displaced files path ∧ location = destination working (root.join path) ∧
      content = text.toUTF8
  /-- Memory holds what was last written to a path. -/
  latest : ∀ path, memory.get? path = lastWritten? files path

theorem components_of_lastWritten? {files : List File} {path : FilePath} {text : String}
    (written : lastWritten? files path = some text) :
    ∃ file ∈ files, file.path.components = path.components := by
  obtain ⟨file, found, -⟩ := Option.map_eq_some_iff.mp written
  have same : file.path.same path = true := by
    have holds := List.find?_some found
    exact holds
  exact ⟨file, List.mem_reverse.mp (List.mem_of_find?_eq_some found), FilePath.same_iff.mp same⟩

/-- Files written into an empty directory, none of which is refused, are there as they are in memory
after the same has been written there, except for those that have been displaced. -/
theorem directory_holdsUndisplaced {working : Location} {root : FilePath} {files : List File}
    {before after : FileTree} {paths : List FilePath}
    (plain : ∀ file ∈ files, file.path.IsPlain)
    (isRoot : before.kind? working root = some .directory)
    (empty : ∀ location, destination working root <+: location →
      location ≠ destination working root → before.get? location = none)
    (written : writeFiles (directorySink (disk working) root) files before = (.ok paths, after)) :
    ∃ memory, writeFiles (Memory.sink : Sink (StateM Memory) WriteError) files {} =
        (.ok paths, memory) ∧ HoldsUndisplaced working root files memory after := by
  obtain ⟨takes, rfl, rfl⟩ := takes_of_writeFiles written
  have isOpen : before.isDirectory (destination working root) = true := by
    obtain ⟨-, location, followed, isOpen⟩ := kind?_eq_directory.mp isRoot
    rw [destination_eq_foldl_steps, ← follow_eq_foldl followed]
    exact isOpen
  have noFile (names : List String) :
      before.fileAt? (destination working root ++ names) = none := by
    by_cases none : names = []
    · rw [none, List.append_nil, fileAt?, isDirectory_iff.mp isOpen]
    · rw [fileAt?, empty _ (List.prefix_append _ _) (by simpa using none)]
  obtain ⟨-, found⟩ := fileAt?_stateAfter plain isOpen noFile takes
  refine ⟨stateAfter Memory.sink {} files,
    writeFiles_of_takes (Memory.takes_sink {} files), ?_, ?_, ?_, Memory.get?_stateAfter files⟩
  · intro path text isHeld still
    rw [Memory.get?_stateAfter] at isHeld
    obtain ⟨file, member, same⟩ := components_of_lastWritten? isHeld
    obtain ⟨names, leads⟩ := exists_componentsOf (plain file member)
    rw [same] at leads
    rw [destination_join_names leads, found, (left?_eq leads files).2 still, isHeld]
    rfl
  · intro path isPlain gone
    obtain ⟨names, leads⟩ := exists_componentsOf isPlain
    rw [destination_join_names leads, found, (left?_eq leads files).1 gone]
    rfl
  · rintro location content ⟨names, rfl⟩ isFile
    rw [found, Option.map_eq_some_iff] at isFile
    obtain ⟨text, isLeft, rfl⟩ := isFile
    obtain ⟨file, member, leads⟩ := exists_file_of_left? isLeft
    have still : ¬Displaced files file.path := by
      intro gone
      rw [(left?_eq leads files).1 gone] at isLeft
      cases isLeft
    refine ⟨file.path, text, ?_, still, (destination_join_names leads working root).symm, rfl⟩
    rw [Memory.get?_stateAfter, ← (left?_eq leads files).2 still, isLeft]

def emptyShelf : FileTree where
  entries := [(["out"], .directory)]

theorem emptyShelf_empty : ∀ location, destination [] ⟨"out"⟩ <+: location →
    location ≠ destination [] ⟨"out"⟩ → emptyShelf.get? location = none := by
  have leads : destination [] ⟨"out"⟩ = ["out"] := by decide
  intro location inside apart
  rw [leads] at inside apart
  obtain ⟨names, rfl⟩ := inside
  have below : names ≠ [] := by simpa using apart
  simp [FileTree.get?, emptyShelf, below]

def notes : List File :=
  [ ⟨⟨"notes.tmp"⟩, "draft"⟩, ⟨⟨"notes"⟩, "final"⟩, ⟨⟨"sub//list"⟩, "bread"⟩,
    ⟨⟨"sub/./list"⟩, "flour"⟩, ⟨⟨"plan.tmp"⟩, "draft"⟩, ⟨⟨"plan"⟩, "final"⟩,
    ⟨⟨"plan.tmp"⟩, "again"⟩, ⟨⟨"log"⟩, "first"⟩, ⟨⟨"log.tmp"⟩, "second"⟩ ]

theorem directory_holdsUndisplaced_notes : (∀ file ∈ notes, file.path.IsPlain) ∧
    emptyShelf.kind? [] ⟨"out"⟩ = some .directory ∧
    (∀ location, destination [] ⟨"out"⟩ <+: location → location ≠ destination [] ⟨"out"⟩ →
      emptyShelf.get? location = none) ∧
    ∃ paths after, writeFiles (directorySink (disk []) ⟨"out"⟩) notes emptyShelf =
        (.ok paths, after) ∧
      ∃ memory, writeFiles (Memory.sink : Sink (StateM Memory) WriteError) notes {} =
        (.ok paths, memory) ∧ HoldsUndisplaced [] ⟨"out"⟩ notes memory after := by
  have plain : ∀ file ∈ notes, file.path.IsPlain := by decide
  have isRoot : emptyShelf.kind? [] ⟨"out"⟩ = some .directory := by decide
  have succeeds :
      (writeFiles (directorySink (disk []) ⟨"out"⟩) notes emptyShelf).1.isOk = true := by
    decide +kernel
  rcases written : writeFiles (directorySink (disk []) ⟨"out"⟩) notes emptyShelf with
    ⟨answer, after⟩
  rw [written] at succeeds
  cases answer with
  | error error => cases succeeds
  | ok paths =>
    exact ⟨plain, isRoot, emptyShelf_empty, paths, after, rfl,
      directory_holdsUndisplaced plain isRoot emptyShelf_empty written⟩

def drafts : List File :=
  [⟨⟨"notes.tmp"⟩, "draft"⟩, ⟨⟨"notes"⟩, "final"⟩]

/-- Memory holds the draft, which is no longer in the directory. -/
theorem exists_displaced_file : (∀ file ∈ drafts, file.path.IsPlain) ∧
    emptyShelf.kind? [] ⟨"out"⟩ = some .directory ∧
    (∀ location, destination [] ⟨"out"⟩ <+: location → location ≠ destination [] ⟨"out"⟩ →
      emptyShelf.get? location = none) ∧
    ∃ paths after memory,
      writeFiles (directorySink (disk []) ⟨"out"⟩) drafts emptyShelf = (.ok paths, after) ∧
      writeFiles (Memory.sink : Sink (StateM Memory) WriteError) drafts {} = (.ok paths, memory) ∧
      memory.get? ⟨"notes.tmp"⟩ = some "draft" ∧ after.fileAt? ["out", "notes.tmp"] = none := by
  have succeeds :
      (writeFiles (directorySink (disk []) ⟨"out"⟩) drafts emptyShelf).1 =
        .ok (drafts.map File.path) := by
    decide +kernel
  refine ⟨by decide, by decide, emptyShelf_empty, drafts.map File.path, _, ⟨drafts⟩,
    Prod.ext succeeds rfl, rfl, by decide, ?_⟩
  decide +kernel

end ClientGem.Output
