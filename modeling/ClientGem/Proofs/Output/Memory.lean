import ClientGem.Output.Memory
import ClientGem.Proofs.Output.Writes
import Mathlib.Data.List.Induction

/-!
Files written into memory one after another. All are taken. A path leads to the content last written
to it, and the files are held in the order in which their paths were first written, each path as it
was spelled then. Files whose paths are all different are held as they were written.
-/

namespace ClientGem

theorem FilePath.same_iff {path other : FilePath} :
    path.same other = true ↔ path.components = other.components :=
  beq_iff_eq

theorem FilePath.same_self {path : FilePath} : path.same path = true :=
  FilePath.same_iff.mpr rfl

theorem FilePath.same_eq_false_iff {path other : FilePath} :
    path.same other = false ↔ path.components ≠ other.components :=
  beq_eq_false_iff_ne

end ClientGem

namespace ClientGem.Output

def lastWritten? (files : List File) (path : FilePath) : Option String :=
  (files.reverse.find? (·.path.same path)).map (·.content)

def firstPlace (files : List File) (path : FilePath) : Nat :=
  files.findIdx (·.path.same path)

theorem lastWritten?_concat (files : List File) (file : File) (path : FilePath) :
    lastWritten? (files ++ [file]) path =
      if file.path.same path then some file.content else lastWritten? files path := by
  rw [lastWritten?, lastWritten?, List.reverse_concat]
  cases found : file.path.same path <;> simp [found]

namespace Memory

theorem find?_putFile (path other : FilePath) (content : String) (files : List File) :
    ((putFile path content files).find? (·.path.same other)).map (·.content) =
      if path.same other then some content
      else (files.find? (·.path.same other)).map (·.content) := by
  induction files with
  | nil => cases found : path.same other <;> simp [putFile, found]
  | cons file files ih =>
    by_cases here : file.path.same path = true
    · have alike : file.path.same other = path.same other := by
        rw [FilePath.same, FilePath.same_iff.mp here, FilePath.same]
      rw [putFile, if_pos here]
      cases found : path.same other <;> simp [alike, found]
    · rw [putFile, if_neg here]
      by_cases first : file.path.same other = true
      · have apart : path.same other = false := by
          rw [FilePath.same_eq_false_iff]
          intro same
          exact here (FilePath.same_iff.mpr ((FilePath.same_iff.mp first).trans same.symm))
        simp [first, apart]
      · simpa [first] using ih

theorem get?_put (memory : Memory) (path other : FilePath) (content : String) :
    (memory.put path content).get? other =
      if path.same other then some content else memory.get? other :=
  find?_putFile path other content memory.files

theorem putFile_of_new {path : FilePath} {files : List File}
    (new : ∀ file ∈ files, file.path.same path = false) (content : String) :
    putFile path content files = files ++ [⟨path, content⟩] := by
  induction files with
  | nil => rfl
  | cons file files ih =>
    obtain ⟨apart, others⟩ := List.forall_mem_cons.mp new
    rw [putFile, apart, ih others]
    rfl

section Sink

variable {ε : Type}

theorem takes_sink (start : Memory) (files : List File) :
    Takes (sink : Sink (StateM Memory) ε) start files :=
  fun _ _ _ _ => rfl

theorem stateAfter_concat (start : Memory) (files : List File) (file : File) :
    stateAfter (sink : Sink (StateM Memory) ε) start (files ++ [file]) =
      (stateAfter (sink : Sink (StateM Memory) ε) start files).put file.path file.content :=
  stateAfter_append files [file]

theorem get?_stateAfter (files : List File) (path : FilePath) :
    (stateAfter (sink : Sink (StateM Memory) ε) {} files).get? path = lastWritten? files path := by
  induction files using List.reverseRecOn with
  | nil => rfl
  | append_singleton files file ih =>
    rw [stateAfter_concat, get?_put, ih, lastWritten?_concat]

theorem stateAfter_of_distinct {files : List File}
    (distinct : files.Pairwise fun earlier later => earlier.path.same later.path = false) :
    stateAfter (sink : Sink (StateM Memory) ε) {} files = ⟨files⟩ := by
  induction files using List.reverseRecOn with
  | nil => rfl
  | append_singleton files file ih =>
    obtain ⟨before, -, apart⟩ := List.pairwise_append.mp distinct
    have new : ∀ other ∈ files, other.path.same file.path = false :=
      fun other member => apart other member file (List.mem_singleton_self file)
    rw [stateAfter_concat, ih before, put, putFile_of_new new]

end Sink

theorem get?_of_distinct {files : List File}
    (distinct : files.Pairwise fun earlier later => earlier.path.same later.path = false)
    {file : File} (member : file ∈ files) :
    (⟨files⟩ : Memory).get? file.path = some file.content := by
  obtain ⟨before, after, rfl⟩ := List.append_of_mem member
  have apart : ∀ other ∈ before, other.path.same file.path = false := by
    intro other inBefore
    exact (List.pairwise_append.mp distinct).2.2 other inBefore file List.mem_cons_self
  have none : before.find? (·.path.same file.path) = none := by
    rw [List.find?_eq_none]
    intro other inBefore
    simp [apart other inBefore]
  rw [get?, List.find?_append, none]
  simp [FilePath.same_self]

/-- To write a file lengthens the list of paths only if its path is new. -/
theorem map_path_putFile (path : FilePath) (content : String) (files : List File) :
    (putFile path content files).map File.path =
      if files.any (·.path.same path) then files.map File.path
      else files.map File.path ++ [path] := by
  induction files with
  | nil => rfl
  | cons file files ih =>
    rw [putFile, List.any_cons]
    cases known : file.path.same path with
    | true => rfl
    | false =>
      rw [if_neg (by decide), List.map_cons, ih, Bool.false_or]
      split <;> rfl

section Unwritten

variable {writes : List File} {file : File}
  (unwritten : ∀ write ∈ writes, write.path.same file.path = false)
include unwritten

theorem firstPlace_concat : firstPlace (writes ++ [file]) file.path = writes.length := by
  have none : writes.findIdx (·.path.same file.path) = writes.length :=
    List.findIdx_eq_length.mpr unwritten
  rw [firstPlace, List.findIdx_append, none]
  simp [FilePath.same_self]

theorem find?_concat : (writes ++ [file]).find? (·.path.same file.path) = some file := by
  have none : writes.find? (·.path.same file.path) = none := by
    rw [List.find?_eq_none]
    intro write inWrites
    simp [unwritten write inWrites]
  rw [List.find?_append, none]
  simp [FilePath.same_self]

end Unwritten

/-- The paths that have been written, each listed once, in the order and the spelling of the first
write to it. -/
structure ListsPaths (writes : List File) (paths : List FilePath) : Prop where
  distinct : paths.Pairwise fun earlier later => earlier.same later = false
  ordered : paths.Pairwise fun earlier later => firstPlace writes earlier < firstPlace writes later
  spelled : ∀ path ∈ paths, (writes.find? (·.path.same path)).map File.path = some path
  complete : ∀ write ∈ writes, ∃ path ∈ paths, path.same write.path = true

namespace ListsPaths

variable {writes : List File} {paths : List FilePath} {path : FilePath}

theorem nil : ListsPaths [] [] where
  distinct := .nil
  ordered := .nil
  spelled _ member := nomatch member
  complete _ member := nomatch member

theorem exists_write (lists : ListsPaths writes paths) (member : path ∈ paths) :
    ∃ write ∈ writes, write.path.same path = true := by
  obtain ⟨write, found, -⟩ := Option.map_eq_some_iff.mp (lists.spelled path member)
  have same := List.find?_some found
  exact ⟨write, List.mem_of_find?_eq_some found, same⟩

theorem firstPlace_lt (lists : ListsPaths writes paths) (member : path ∈ paths) :
    firstPlace writes path < writes.length :=
  List.findIdx_lt_length_of_exists (lists.exists_write member)

/-- What is written later does not change where a path was first written. -/
theorem firstPlace_append (lists : ListsPaths writes paths) (member : path ∈ paths)
    (later : List File) : firstPlace (writes ++ later) path = firstPlace writes path :=
  List.findIdx_append.trans (if_pos (lists.firstPlace_lt member))

theorem spelled_append (lists : ListsPaths writes paths) (member : path ∈ paths)
    (later : List File) :
    ((writes ++ later).find? (·.path.same path)).map File.path = some path := by
  obtain ⟨write, found, same⟩ := Option.map_eq_some_iff.mp (lists.spelled path member)
  rw [List.find?_append, found, Option.some_or, Option.map_some, same]

theorem ordered_append (lists : ListsPaths writes paths) (later : List File) :
    paths.Pairwise fun first second =>
      firstPlace (writes ++ later) first < firstPlace (writes ++ later) second := by
  apply lists.ordered.imp_of_mem
  intro first second inFirst inSecond before
  rwa [lists.firstPlace_append inFirst, lists.firstPlace_append inSecond]

theorem known (lists : ListsPaths writes paths) {file : File}
    (again : ∃ path ∈ paths, path.same file.path = true) : ListsPaths (writes ++ [file]) paths where
  distinct := lists.distinct
  ordered := lists.ordered_append [file]
  spelled _ member := lists.spelled_append member [file]
  complete write member := by
    rcases List.mem_append.mp member with earlier | last
    · exact lists.complete write earlier
    · rw [List.mem_singleton.mp last]
      exact again

theorem unwritten (lists : ListsPaths writes paths)
    (new : ∀ other ∈ paths, other.same path = false) :
    ∀ write ∈ writes, write.path.same path = false := by
  intro write member
  rw [FilePath.same_eq_false_iff]
  intro same
  obtain ⟨other, inPaths, alike⟩ := lists.complete write member
  have again : other.same path = true :=
    FilePath.same_iff.mpr ((FilePath.same_iff.mp alike).trans same)
  rw [new other inPaths] at again
  cases again

theorem fresh (lists : ListsPaths writes paths) {file : File}
    (new : ∀ path ∈ paths, path.same file.path = false) :
    ListsPaths (writes ++ [file]) (paths ++ [file.path]) where
  distinct := by
    rw [List.pairwise_append]
    refine ⟨lists.distinct, List.pairwise_singleton .., ?_⟩
    intro path member other last
    rw [List.mem_singleton.mp last]
    exact new path member
  ordered := by
    rw [List.pairwise_append]
    refine ⟨lists.ordered_append [file], List.pairwise_singleton .., ?_⟩
    intro path member other last
    rw [List.mem_singleton.mp last, lists.firstPlace_append member,
      firstPlace_concat (lists.unwritten new)]
    exact lists.firstPlace_lt member
  spelled := by
    intro path member
    rcases List.mem_append.mp member with earlier | last
    · exact lists.spelled_append earlier [file]
    · rw [List.mem_singleton.mp last, find?_concat (lists.unwritten new), Option.map_some]
  complete := by
    intro write member
    rcases List.mem_append.mp member with earlier | last
    · obtain ⟨path, inPaths, alike⟩ := lists.complete write earlier
      exact ⟨path, List.mem_append_left _ inPaths, alike⟩
    · rw [List.mem_singleton.mp last]
      exact ⟨file.path, List.mem_append_right _ (List.mem_singleton_self _), FilePath.same_self⟩

/-- One more file that is written keeps the paths of the files held in order. -/
theorem put {files : List File} (lists : ListsPaths writes (files.map File.path)) (file : File) :
    ListsPaths (writes ++ [file]) ((putFile file.path file.content files).map File.path) := by
  rw [map_path_putFile]
  split
  · next again =>
    obtain ⟨other, member, same⟩ := List.any_eq_true.mp again
    exact lists.known ⟨other.path, List.mem_map_of_mem member, same⟩
  · next new =>
    apply lists.fresh
    intro path member
    obtain ⟨other, inFiles, rfl⟩ := List.mem_map.mp member
    exact Bool.eq_false_iff.mpr fun same => new (List.any_eq_true.mpr ⟨other, inFiles, same⟩)

end ListsPaths

theorem listsPaths_stateAfter {ε : Type} (writes : List File) :
    ListsPaths writes
      ((stateAfter (sink : Sink (StateM Memory) ε) {} writes).files.map File.path) := by
  induction writes using List.reverseRecOn with
  | nil => exact .nil
  | append_singleton writes file ih =>
    rw [stateAfter_concat]
    exact ih.put file

structure HoldsNewest (writes : List File) (memory : Memory) : Prop where
  paths : ListsPaths writes (memory.files.map File.path)
  contents : ∀ file ∈ memory.files, lastWritten? writes file.path = some file.content
  get?_eq : ∀ path, memory.get? path = lastWritten? writes path

/-- Any files can be written, and the last write to each path wins: the paths are held in the order
and the spelling in which they were first written, with the contents that were written last, and
every path leads to the content last written to it, however it is spelled. -/
theorem lastWrite_wins {ε : Type} (writes : List File) : ∃ memory,
    writeFiles (sink : Sink (StateM Memory) ε) writes {} =
      (.ok (writes.map File.path), memory) ∧ HoldsNewest writes memory := by
  refine ⟨_, writeFiles_of_takes (takes_sink {} writes), listsPaths_stateAfter writes, ?_,
    get?_stateAfter writes⟩
  intro file member
  rw [← get?_stateAfter (ε := ε) writes]
  exact get?_of_distinct (List.pairwise_map.mp (listsPaths_stateAfter writes).distinct) member

example : (stateAfter (sink : Sink (StateM Memory) Empty) {}
    [⟨⟨"a//b"⟩, "1"⟩, ⟨⟨"c"⟩, "2"⟩, ⟨⟨"a/./b/"⟩, "3"⟩]).files =
      [⟨⟨"a//b"⟩, "3"⟩, ⟨⟨"c"⟩, "2"⟩] := by
  decide

end Memory

end ClientGem.Output
