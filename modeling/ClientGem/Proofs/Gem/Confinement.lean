import ClientGem.Proofs.Gem.Build
import ClientGem.Proofs.Gem.LibraryFiles
import ClientGem.Proofs.Output.Confinement

/-!
Where the files of a gem can lie. Their paths are joined from the names of the API and of the
resources as they are given, so that all of them stay below the directory of the gem exactly when
the name of the API does not begin at the root and none of the names has a step up.
-/

namespace ClientGem.Gem

open FilePath FileTree Output

/-- As a path the name of the API is confined, and in the name of a resource no step up stands
before the last slash. What follows the last slash is only a part of a file name. -/
def NamesConfined (gem : Gem) : Prop :=
  (⟨gem.apiName⟩ : FilePath).IsConfined ∧
    ∀ name ∈ gem.resourceNames, up ∉ (pieces name.toList).dropLast

instance (gem : Gem) : Decidable gem.NamesConfined :=
  inferInstanceAs (Decidable (_ ∧ _))

theorem isConfined_fileStem (gem : Gem) :
    (⟨gem.fileStem⟩ : FilePath).IsConfined ↔ (⟨gem.apiName⟩ : FilePath).IsConfined := by
  have stem : gem.fileStem.toList = gem.apiName.toList.map Ruby.underscored :=
    Ruby.toList_fileStem gem.apiName
  have ofSlash (c : Char) : Ruby.underscored c = '/' ↔ c = '/' :=
    Ruby.underscored_eq_iff (by decide) (by decide)
  have ofDot (c : Char) : Ruby.underscored c = '.' ↔ c = '.' :=
    Ruby.underscored_eq_iff (by decide) (by decide)
  have absolute :
      (⟨gem.fileStem⟩ : FilePath).isAbsolute = (⟨gem.apiName⟩ : FilePath).isAbsolute := by
    rw [Bool.eq_iff_iff, isAbsolute_iff_head, isAbsolute_iff_head, stem, List.head?_map]
    simp only [Option.map_eq_some_iff, ofSlash, exists_eq_right]
  have ofUp (piece : List Char) : piece.map Ruby.underscored = up ↔ piece = up := by
    simp [up, List.map_eq_cons_iff, ofDot]
  have cut :
      pieces gem.fileStem.toList = (pieces gem.apiName.toList).map (List.map Ruby.underscored) := by
    rw [stem]
    apply Text.splitChars_map
    intro c
    rw [Bool.eq_iff_iff, beq_iff_eq, beq_iff_eq, ofSlash]
  rw [isConfined_iff, isConfined_iff, absolute, cut, List.mem_map]
  simp only [ofUp, exists_eq_right]

theorem isConfined_append {stem : String} (ne_nil : stem.toList ≠ [])
    (confined : (⟨stem⟩ : FilePath).IsConfined) {ending : String} (flat : '/' ∉ ending.toList)
    (long : 2 < ending.toList.length) : (⟨stem ++ ending⟩ : FilePath).IsConfined := by
  rw [isConfined_iff] at confined ⊢
  refine ⟨isAbsolute_eq_false ?_, ?_⟩
  · obtain ⟨first, rest, text⟩ := List.exists_cons_of_ne_nil ne_nil
    rw [String.toList_append, text, List.cons_append, List.head?_cons, ← List.head?_cons, ← text]
    intro head
    exact absurd (isAbsolute_iff_head.mpr head) (Bool.eq_false_iff.mp confined.1)
  · rw [String.toList_append, up_mem_pieces_append flat long]
    exact fun member => confined.2 (List.dropLast_subset _ member)

theorem join_text_ne_empty {base path : FilePath} (nonempty : path.text ≠ "") :
    (base.join path).text ≠ "" := by
  unfold join
  split
  · exact nonempty
  · split
    · simp [nonempty]
    · simp

variable (gem : Gem)

theorem isConfined_libraryPath (name : String) : (gem.libraryPath name).IsConfined ↔
    (⟨gem.apiName⟩ : FilePath).IsConfined ∧ (⟨name ++ ".rb"⟩ : FilePath).IsConfined := by
  have lib : (⟨"lib"⟩ : FilePath).IsConfined := by decide
  have stem : (⟨gem.fileStem⟩ : FilePath).text ≠ "" := by simpa using gem.fileStem_nonempty
  rw [libraryPath, isConfined_join (join_text_ne_empty stem), isConfined_join (by decide),
    isConfined_fileStem, and_iff_right lib]

theorem isConfined_resourcePath (name : String) :
    (gem.libraryPath ("resources/" ++ name)).IsConfined ↔
    (⟨gem.apiName⟩ : FilePath).IsConfined ∧ up ∉ (pieces name.toList).dropLast := by
  have text : ("resources/" ++ name ++ ".rb").toList =
      "resources".toList ++ '/' :: (name.toList ++ ".rb".toList) := by
    simp
  have relative : (⟨"resources/" ++ name ++ ".rb"⟩ : FilePath).isAbsolute = false := by
    apply isAbsolute_eq_false
    simp
  have resources : up ∉ pieces "resources".toList := by decide
  rw [isConfined_libraryPath, isConfined_iff ⟨"resources/" ++ name ++ ".rb"⟩,
    and_iff_right relative, text, pieces_append_slash, List.mem_append, or_iff_right resources,
    up_mem_pieces_append (by decide) (by decide)]

theorem isConfined_join_fileStem (confined : (⟨gem.apiName⟩ : FilePath).IsConfined)
    (directory ending : String) (ofDirectory : (⟨directory⟩ : FilePath).IsConfined)
    (nonempty : directory ≠ "") (flat : '/' ∉ ending.toList) (long : 2 < ending.toList.length) :
    (FilePath.join ⟨directory⟩ ⟨gem.fileStem ++ ending⟩).IsConfined := by
  rw [isConfined_join nonempty]
  exact ⟨ofDirectory, isConfined_append gem.fileStem_nonempty (gem.isConfined_fileStem.mpr confined)
    flat long⟩

def fixedPaths : List FilePath :=
  [gem.entryPath, ⟨"docs/api.md"⟩, ⟨"README.md"⟩, ⟨"test/test_helper.rb"⟩, gem.testPath]

theorem paths_perm :
    (gem.files.map File.path).Perm (gem.libraryNames.map gem.libraryPath ++ gem.fixedPaths) := by
  have entry : [gem.entryFile].map File.path = [gem.entryPath] := by
    simp [entryFile, sourceFile]
  have others : (gem.documents ++ gem.testFiles).map File.path =
      [⟨"docs/api.md"⟩, ⟨"README.md"⟩, ⟨"test/test_helper.rb"⟩, gem.testPath] := by
    simp [documents, testFiles, sourceFile]
  rw [← libraryPaths_eq, fixedPaths, ← others, files, List.append_assoc _ gem.documents,
    List.map_append, List.map_append, List.map_append, entry, List.append_assoc, List.append_assoc,
    List.append_assoc, List.singleton_append]
  apply List.Perm.append_left
  exact List.perm_middle.symm

theorem mem_paths_iff {path : FilePath} : path ∈ gem.files.map File.path ↔
    (∃ name ∈ gem.libraryNames, gem.libraryPath name = path) ∨ path ∈ gem.fixedPaths := by
  rw [gem.paths_perm.mem_iff, List.mem_append, List.mem_map]

theorem forall_mem_fixedPaths (p : FilePath → Prop) (entry : p gem.entryPath)
    (test : p gem.testPath)
    (others : ∀ path ∈ ([⟨"docs/api.md"⟩, ⟨"README.md"⟩, ⟨"test/test_helper.rb"⟩] : List FilePath),
      p path) : ∀ path ∈ gem.fixedPaths, p path := by
  simp only [List.forall_mem_cons] at others
  simp only [fixedPaths, List.forall_mem_cons]
  exact ⟨entry, others.1, others.2.1, others.2.2.1, test, by simp⟩

theorem files_isConfined_iff :
    (∀ path ∈ gem.files.map File.path, path.IsConfined) ↔ gem.NamesConfined := by
  constructor
  · intro confined
    have ofLibrary (name : String) (member : name ∈ gem.libraryNames) :
        (gem.libraryPath name).IsConfined :=
      confined _ (gem.mem_paths_iff.mpr (.inl ⟨name, member, rfl⟩))
    constructor
    · have base : "version" ∈ gem.libraryNames :=
        List.mem_append_left _ (gem.baseFiles_perm.mem_iff.mp (by decide))
      exact ((gem.isConfined_libraryPath "version").mp (ofLibrary _ base)).1
    · intro name member
      have ofResource : "resources/" ++ name ∈ gem.libraryNames :=
        List.mem_append_right _ (List.mem_map_of_mem member)
      exact ((gem.isConfined_resourcePath name).mp (ofLibrary _ ofResource)).2
  · rintro ⟨ofApi, ofResources⟩ path member
    rcases gem.mem_paths_iff.mp member with ⟨name, inNames, rfl⟩ | fixed
    · rcases List.mem_append.mp inNames with base | ofResource
      · have all : ∀ file ∈ baseFiles, (⟨file ++ ".rb"⟩ : FilePath).IsConfined := by decide
        have confined := all name (gem.baseFiles_perm.mem_iff.mpr base)
        exact (gem.isConfined_libraryPath name).mpr ⟨ofApi, confined⟩
      · obtain ⟨resource, inTable, rfl⟩ := List.mem_map.mp ofResource
        exact (gem.isConfined_resourcePath resource).mpr ⟨ofApi, ofResources resource inTable⟩
    · refine gem.forall_mem_fixedPaths IsConfined ?_ ?_ (by decide) path fixed
      · exact gem.isConfined_join_fileStem ofApi "lib" ".rb" (by decide) (by decide) (by decide)
          (by decide)
      · exact gem.isConfined_join_fileStem ofApi "test" "_test.rb" (by decide) (by decide)
          (by decide) (by decide)

theorem hasEnding_append (text ending : String) (flat : '/' ∉ ending.toList)
    (long : 2 < ending.toList.length) : HasEnding ⟨text ++ ending⟩ :=
  ⟨text.toList, ending.toList, String.toList_append, flat, long⟩

theorem hasEnding_join (base : FilePath) {path : FilePath} (hasEnding : HasEnding path) :
    HasEnding (base.join path) := by
  obtain ⟨cs, ending, text, flat, long⟩ := hasEnding
  unfold join
  split
  · exact ⟨cs, ending, text, flat, long⟩
  · split
    · exact ⟨base.text.toList ++ cs, ending, by simp [text], flat, long⟩
    · exact ⟨base.text.toList ++ '/' :: cs, ending, by simp [text], flat, long⟩

theorem hasEnding_of_mem_paths {path : FilePath} (member : path ∈ gem.files.map File.path) :
    HasEnding path := by
  rcases gem.mem_paths_iff.mp member with ⟨name, -, rfl⟩ | fixed
  · exact hasEnding_join _ (hasEnding_append name ".rb" (by decide) (by decide))
  · refine gem.forall_mem_fixedPaths HasEnding ?_ ?_ ?_ path fixed
    · exact hasEnding_join _ (hasEnding_append gem.fileStem ".rb" (by decide) (by decide))
    · exact hasEnding_join _ (hasEnding_append gem.fileStem "_test.rb" (by decide) (by decide))
    · simp only [List.forall_mem_cons]
      exact ⟨hasEnding_append "docs/api" ".md" (by decide) (by decide),
        hasEnding_append "README" ".md" (by decide) (by decide),
        hasEnding_append "test/test_helper" ".rb" (by decide) (by decide), by simp⟩

/-- Confined files are written without a change to any file outside the directory of the gem. -/
theorem keeps_build (confined : gem.NamesConfined) (working : Location) (root : FilePath) :
    Keeps (IsBelow (destination working root)) (gem.build (directorySink (disk working) root)) := by
  unfold build
  cases rendered : gem.render with
  | error missing => exact keeps_throw _
  | ok files =>
    apply keeps_adapt
    apply keeps_writeFiles
    intro file member
    rw [files_of_render rendered] at member
    have inPaths := List.mem_map_of_mem (f := File.path) member
    exact keeps_directorySink (gem.files_isConfined_iff.mpr confined _ inPaths)
      (gem.hasEnding_of_mem_paths inPaths) working root file.content

/-- The files that are generated stay below any directory they are joined to exactly when the names
of the API and of the resources do, and then no file outside this directory is made or replaced. -/
theorem render_confined_iff {gem : Gem} {files : List File} (accepted : gem.render = .ok files) :
    ((∀ file ∈ files, file.path.IsConfined) ↔ gem.NamesConfined) ∧
      (gem.NamesConfined → ∀ (working : Location) (root : FilePath),
        Keeps (IsBelow (destination working root))
          (gem.build (directorySink (disk working) root))) := by
  obtain rfl := files_of_render accepted
  constructor
  · rw [← gem.files_isConfined_iff]
    exact List.forall_mem_map.symm
  · exact gem.keeps_build

def library : Gem where
  api.nameSetting := some "book/library"
  api.resources :=
    (Api.ResourceTable.empty.insert "rare/.." { endpoints := [{ name := "list" }] }).insert
      "rare/./maps" { endpoints := [] }

theorem render_confined_iff_library : library.render = .ok library.files ∧ library.NamesConfined ∧
    (∀ file ∈ library.files, file.path.IsConfined) ∧
      ∀ (working : Location) (root : FilePath), Keeps (IsBelow (destination working root))
        (library.build (directorySink (disk working) root)) := by
  have complete : library.missingName? = none := by decide +kernel
  have accepted : library.render = .ok library.files := render_of_complete complete
  have confined : library.NamesConfined := by decide
  obtain ⟨same, kept⟩ := render_confined_iff accepted
  exact ⟨accepted, confined, same.mpr confined, kept confined⟩

def rooted : Gem where
  api.nameSetting := some "/abs"

theorem exists_unconfined_file : ∃ files, rooted.render = .ok files ∧
    ∃ file ∈ files, file.path = ⟨"/abs.rb"⟩ ∧ ¬file.path.IsConfined := by
  have complete : rooted.missingName? = none := by decide +kernel
  have entry : rooted.entryPath = ⟨"/abs.rb"⟩ := by decide
  have member : rooted.entryFile ∈ rooted.files := by simp [files]
  have path : rooted.entryFile.path = ⟨"/abs.rb"⟩ := entry
  refine ⟨rooted.files, render_of_complete complete, rooted.entryFile, member, path, ?_⟩
  rw [path]
  decide

end ClientGem.Gem
