import ClientGem.Proofs.Gem.Build
import ClientGem.Proofs.Gem.Places

/-!
A gem built into a directory. What is there afterwards are the files of the gem, beside everything
that was there before.
-/

namespace ClientGem.Gem

open FilePath FileTree Output

def besidePath (path : FilePath) : FilePath :=
  ⟨path.text ++ ".tmp"⟩

structure WrittenBelow (working : Location) (root : FilePath) (files : List File)
    (before after : FileTree) : Prop where
  written : ∀ file ∈ files, after.read working (root.join file.path) = .ok file.content.toUTF8
  cleared : ∀ file ∈ files,
    after.get? (destination working (root.join (besidePath file.path))) = none
  /-- Files elsewhere are there if they were there before, with their content. -/
  kept : ∀ location,
    (∀ file ∈ files, location ≠ destination working (root.join file.path) ∧
      location ≠ destination working (root.join (besidePath file.path))) →
    after.fileAt? location = before.fileAt? location
  remain : ∀ location, before.isDirectory location = true → after.isDirectory location = true
  /-- A new directory is one that the path of a file goes through. -/
  new : ∀ location, after.isDirectory location = true → before.isDirectory location = true ∨
    ∃ file ∈ files, ∃ higher ∈ (root.join file.path).ancestors,
      location = destination working higher

theorem read_of_settled {working : Location} {path : FilePath} {content : ByteArray}
    {tree : FileTree} (settled : Settled working path content tree) :
    tree.read working path = .ok content := by
  obtain ⟨checked, names, name, above, steps, -, -, followed, entered⟩ :=
    locate_eq_some.mp settled.located
  have reached :
      tree.follow (startOf working path) path.steps = .ok (destination working path) := by
    rw [steps]
    exact follow_concat.mpr ⟨above, followed, entered, by rw [settled.written]; rfl⟩
  have found : tree.lookup working path = .ok (.file content) := by
    simp [lookup, checked, reached, settled.written, settled.open_ends.2, bind, Except.bind]
  simp only [FileTree.read, found, bind, Except.bind]

section Names

variable {gem : Gem} (ordinary : gem.NamesOrdinary) (working : Location) (root : FilePath)
include ordinary

theorem place_of_mem_files {file : File} (member : file ∈ gem.files) :
    ∃ place ∈ gem.places, file.path = place.path ∧ place.IsOrdinary := by
  have inPaths := (paths_perm_places ordinary).mem_iff.mp (List.mem_map_of_mem member)
  obtain ⟨place, inPlaces, path⟩ := List.mem_map.mp inPaths
  exact ⟨place, inPlaces, path.symm, isOrdinary_of_mem_places ordinary place inPlaces⟩

theorem isNamed_of_mem_files : ∀ file ∈ gem.files, IsNamed (root.join file.path) := by
  intro file member
  obtain ⟨place, -, path, isOrdinary⟩ := place_of_mem_files ordinary member
  rw [path]
  exact isNamed_join_path isOrdinary root

theorem nodup_paths : (gem.files.map File.path).Nodup := by
  rw [(paths_perm_places ordinary).nodup_iff]
  have steps : (gem.places.map Place.path).map FilePath.steps = gem.places.map Place.names := by
    rw [List.map_map]
    apply List.map_congr_left
    intro place member
    exact steps_ofNames (isOrdinary_of_mem_places ordinary place member) place.names_ne_nil
  have distinct : (gem.places.map Place.names).Nodup := nodup_places
  rw [← steps] at distinct
  exact List.Nodup.of_map FilePath.steps distinct

theorem apart_files : gem.files.Pairwise fun earlier later =>
    Apart working (root.join earlier.path) (root.join later.path) := by
  have different : gem.files.Pairwise fun earlier later => earlier.path ≠ later.path :=
    List.pairwise_map.mp (nodup_paths ordinary)
  apply different.imp_of_mem
  intro earlier later member member' apart
  obtain ⟨place, inPlaces, path, isOrdinary⟩ := place_of_mem_files ordinary member
  obtain ⟨place', inPlaces', path', isOrdinary'⟩ := place_of_mem_files ordinary member'
  rw [path, path'] at apart ⊢
  have names : place.names ≠ place'.names := by
    intro same
    exact apart (by rw [Place.path, Place.path, same])
  exact apart_of_places isOrdinary isOrdinary' (placesApart inPlaces inPlaces' names) working root

theorem destination_besidePath {file : File} (member : file ∈ gem.files) :
    destination working (root.join (besidePath file.path)) =
      destination working (root.join file.path).temporary := by
  obtain ⟨place, inPlaces, path, isOrdinary⟩ := place_of_mem_files ordinary member
  rw [path, destination_join_temporary isOrdinary, besidePath, ← Place.path_beside,
    destination_join_path (Place.isOrdinary_beside isOrdinary)]

end Names

theorem build_eq_ok {gem : Gem} {σ ε : Type} {sink : Sink (StateM σ) ε} {before after : σ}
    {paths : List FilePath} (built : gem.build sink before = (.ok paths, after)) :
    gem.render = .ok gem.files ∧ writeFiles sink gem.files before = (.ok paths, after) := by
  cases rendered : gem.render with
  | error missing =>
    rw [build_of_error rendered] at built
    cases built
  | ok files =>
    obtain rfl := files_of_render rendered
    rw [build_of_ok rendered] at built
    rcases ended : writeFiles sink gem.files before with ⟨answer, last⟩
    rw [ended] at built
    cases answer with
    | error error => cases built
    | ok written =>
      cases built
      exact ⟨rfl, rfl⟩

theorem build_of_written {gem : Gem} {σ ε : Type} {sink : Sink (StateM σ) ε} {before after : σ}
    {paths : List FilePath} (rendered : gem.render = .ok gem.files)
    (written : writeFiles sink gem.files before = (.ok paths, after)) :
    gem.build sink before = (.ok paths, after) := by
  rw [build_of_ok rendered, written]
  rfl

/-- A build that succeeds leaves exactly the files of the gem below the directory, beside what was
there before, and to build the gem again changes nothing. -/
theorem directoryBuild {gem : Gem} (ordinary : gem.NamesOrdinary) {working : Location}
    {root : FilePath} {before after : FileTree} {paths : List FilePath}
    (built : gem.build (directorySink (disk working) root) before = (.ok paths, after)) :
    (∃ files, gem.render = .ok files ∧ paths = files.map File.path ∧
      WrittenBelow working root files before after) ∧
    ∃ same, gem.build (directorySink (disk working) root) after = (.ok paths, same) ∧
      ∀ location, same.get? location = after.get? location := by
  obtain ⟨rendered, written⟩ := build_eq_ok built
  obtain ⟨rfl, settled⟩ := settled_of_writeFiles (isNamed_of_mem_files ordinary root)
    (apart_files ordinary working root) written
  have same := sameFiles_writeFiles working root gem.files before
  have grows := grows_writeFiles working root gem.files before
  rw [written] at same grows
  obtain ⟨last, rewritten, unchanged⟩ := rewrite_of_settled settled
  refine ⟨⟨gem.files, rendered, rfl, ?_⟩, last, build_of_written rendered rewritten, unchanged⟩
  constructor
  · exact fun file member => read_of_settled (settled file member)
  · intro file member
    rw [destination_besidePath ordinary working root member]
    exact (settled file member).cleared
  · intro location elsewhere
    apply same
    rintro ⟨file, member, touches⟩
    obtain ⟨notTarget, notBeside⟩ := elsewhere file member
    rw [destination_besidePath ordinary working root member] at notBeside
    exact touches.elim notTarget notBeside
  · exact grows.kept
  · exact grows.new

def bakery : Gem where
  api.nameSetting := some "bakery"
  api.resources := Api.ResourceTable.empty.insert "breads" { endpoints := [{ name := "list" }] }

def bakeryShelf : FileTree where
  entries := [
    (["work"], .directory), (["work", "notes.txt"], .file "flour".toUTF8),
    (["work", "out"], .directory), (["work", "out", "README.md"], .file "older".toUTF8) ]

theorem directoryBuild_bakery : bakery.NamesOrdinary ∧ ∃ paths after,
    bakery.build (directorySink (disk ["work"]) ⟨"out"⟩) bakeryShelf = (.ok paths, after) ∧
    (∃ files, bakery.render = .ok files ∧ paths = files.map File.path ∧
      WrittenBelow ["work"] ⟨"out"⟩ files bakeryShelf after) ∧
    ∃ same, bakery.build (directorySink (disk ["work"]) ⟨"out"⟩) after = (.ok paths, same) ∧
      ∀ location, same.get? location = after.get? location := by
  have ordinary : bakery.NamesOrdinary := by decide
  have succeeds :
      (bakery.build (directorySink (disk ["work"]) ⟨"out"⟩) bakeryShelf).1.isOk = true := by
    decide +kernel
  rcases built : bakery.build (directorySink (disk ["work"]) ⟨"out"⟩) bakeryShelf with
    ⟨answer, after⟩
  rw [built] at succeeds
  cases answer with
  | error refusal => cases succeeds
  | ok paths => exact ⟨ordinary, paths, after, rfl, directoryBuild ordinary built⟩

end ClientGem.Gem
