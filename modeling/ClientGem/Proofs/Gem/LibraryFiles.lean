import ClientGem.Proofs.Gem.Paths

/-!
The files of a gem that its entry file is there to load: all that lie below the same directory,
with the path of the entry file given to no other file.
-/

namespace ClientGem.Gem

open FilePath Output

def isBelow (dir path : FilePath) : Bool :=
  dir.components.isPrefixOf path.components

def isLoaded (gem : Gem) (path : FilePath) : Bool :=
  isBelow ⟨"lib"⟩ path && !path.same gem.entryPath

def libraryNames (gem : Gem) : List String :=
  gem.baseSources.map Prod.fst ++ gem.resourceNames.map ("resources/" ++ ·)

theorem isInside_of_ordinary {name : String} (ordinary : IsOrdinary (name ++ ".rb").toList)
    (ne_dot : (name ++ ".rb").toList ≠ "..rb".toList) : IsInside name := by
  have relative : (name ++ ".rb").toList.head? ≠ some '/' :=
    fun slash => ordinary.1 (List.mem_of_mem_head? slash)
  exact ⟨relative, _, [], innerComponents_of_ordinary ordinary, ne_dot⟩

theorem isInside_baseFile {file : String} (member : file ∈ baseFiles) : IsInside file := by
  have all : ∀ file ∈ baseFiles,
      IsOrdinary (file ++ ".rb").toList ∧ (file ++ ".rb").toList ≠ "..rb".toList := by
    decide
  exact isInside_of_ordinary (all file member).1 (all file member).2

theorem isInside_resource (name : String) : IsInside ("resources/" ++ name) := by
  have text : ("resources/" ++ name ++ ".rb").toList =
      "resources".toList ++ '/' :: (name ++ ".rb").toList := by
    simp
  refine ⟨by simp, "resources".toList, innerComponents (name ++ ".rb").toList, ?_, by decide⟩
  rw [text, innerComponents_append_slash, innerComponents_of_ordinary (by decide)]
  rfl

theorem baseSources_names (gem : Gem) : gem.baseSources.map Prod.fst =
    ["configuration", "client", "request", "error", "object", "collection", "cache", "version"] :=
  rfl

theorem baseFiles_perm (gem : Gem) : baseFiles.Perm (gem.baseSources.map Prod.fst) := by
  rw [baseSources_names]
  decide

theorem isInside_of_mem_libraryNames (gem : Gem) : ∀ name ∈ gem.libraryNames, IsInside name := by
  intro name member
  rcases List.mem_append.mp member with base | ofResource
  · exact isInside_baseFile (gem.baseFiles_perm.mem_iff.mpr base)
  · obtain ⟨resource, -, rfl⟩ := List.mem_map.mp ofResource
    exact isInside_resource resource

theorem libraryPaths_eq (gem : Gem) :
    gem.baseSourceFiles.map File.path ++ gem.resourceFiles.map File.path =
      gem.libraryNames.map gem.libraryPath := by
  unfold libraryNames
  rw [List.map_append, baseSourceFiles, resourceFiles, resourceNames,
    Api.ResourceTable.names]
  simp only [List.map_map]
  rfl

theorem isBelow_lib {path : FilePath} {first : List Char} {rest : List Component}
    (components : path.components = .name first :: rest) :
    isBelow ⟨"lib"⟩ path = decide (first = "lib".toList) := by
  have lib : (⟨"lib"⟩ : FilePath).components = [.name "lib".toList] := by decide
  have same : (Component.name "lib".toList == .name first) = decide (first = "lib".toList) :=
    decide_eq_decide.mpr (by rw [Component.name.injEq, eq_comm])
  unfold isBelow
  rw [lib, components, List.isPrefixOf, List.isPrefixOf, Bool.and_true, same]

section Flat

variable {gem : Gem} (flat : '/' ∉ gem.apiName.toList)
include flat

theorem isBelow_libraryPath {name : String} (inside : IsInside name) :
    isBelow ⟨"lib"⟩ (gem.libraryPath name) = true := by
  rw [isBelow_lib (libraryPath_components flat name inside.1)]
  rfl

theorem isBelow_entryPath : isBelow ⟨"lib"⟩ gem.entryPath = true := by
  rw [isBelow_lib (entryPath_components flat)]
  rfl

theorem isBelow_testPath : isBelow ⟨"lib"⟩ gem.testPath = false := by
  rw [isBelow_lib (testPath_components flat)]
  rfl

theorem isLoaded_libraryPath {name : String} (inside : IsInside name) :
    gem.isLoaded (gem.libraryPath name) = true := by
  unfold isLoaded
  rw [isBelow_libraryPath flat inside, libraryPath_ne_entryPath flat inside]
  rfl

theorem not_same_of_not_below {path : FilePath} (outside : isBelow ⟨"lib"⟩ path = false) :
    path.same gem.entryPath = false := by
  apply beq_eq_false_iff_ne.mpr
  intro same
  have below := isBelow_entryPath flat
  unfold isBelow at below
  rw [← same] at below
  exact absurd (below.symm.trans outside) (by decide)

theorem isLoaded_of_mem {path : FilePath}
    (member : path ∈ gem.baseSourceFiles.map File.path ++ gem.resourceFiles.map File.path) :
    gem.isLoaded path = true := by
  rw [libraryPaths_eq] at member
  obtain ⟨name, inNames, rfl⟩ := List.mem_map.mp member
  exact isLoaded_libraryPath flat (gem.isInside_of_mem_libraryNames name inNames)

theorem not_isBelow_of_mem {path : FilePath}
    (member : path ∈ (gem.documents ++ gem.testFiles).map File.path) :
    isBelow ⟨"lib"⟩ path = false := by
  have cases : path = ⟨"docs/api.md"⟩ ∨ path = ⟨"README.md"⟩ ∨ path = ⟨"test/test_helper.rb"⟩ ∨
      path = gem.testPath := by
    simpa [documents, testFiles, sourceFile] using member
  rcases cases with rfl | rfl | rfl | rfl
  · decide
  · decide
  · decide
  · exact isBelow_testPath flat

/-- Apart from the entry file, the files of the library are those that are loaded. -/
theorem filter_isLoaded_paths : (gem.files.map File.path).filter gem.isLoaded =
    gem.libraryNames.map gem.libraryPath := by
  have base : (gem.baseSourceFiles.map File.path).filter gem.isLoaded =
      gem.baseSourceFiles.map File.path :=
    List.filter_eq_self.mpr fun path member =>
      isLoaded_of_mem flat (List.mem_append_left _ member)
  have resources : (gem.resourceFiles.map File.path).filter gem.isLoaded =
      gem.resourceFiles.map File.path :=
    List.filter_eq_self.mpr fun path member =>
      isLoaded_of_mem flat (List.mem_append_right _ member)
  have entry : ([gem.entryFile].map File.path).filter gem.isLoaded = [] := by
    simp [entryFile, sourceFile, isLoaded, same]
  have others : ((gem.documents ++ gem.testFiles).map File.path).filter gem.isLoaded = [] := by
    apply List.filter_eq_nil_iff.mpr
    intro path member
    unfold isLoaded
    rw [not_isBelow_of_mem flat member, Bool.false_and]
    exact Bool.false_ne_true
  rw [← libraryPaths_eq, files, List.append_assoc _ gem.documents, List.map_append, List.map_append,
    List.map_append, List.filter_append, List.filter_append, List.filter_append, base, entry,
    resources, others, List.append_nil, List.append_nil]

theorem not_same_of_mem {file : File} (member : file ∈ gem.baseSourceFiles ++ gem.resourceFiles) :
    file.path.same gem.entryPath = false := by
  have inPaths := List.mem_map_of_mem (f := File.path) member
  rw [List.map_append] at inPaths
  have isLoaded := isLoaded_of_mem flat inPaths
  simpa [Gem.isLoaded] using (Bool.and_eq_true_iff.mp isLoaded).2

theorem filter_same_entryPath :
    gem.files.filter (fun file => file.path.same gem.entryPath) = [gem.entryFile] := by
  have dropped {group : List File}
      (apart : ∀ file ∈ group, file.path.same gem.entryPath = false) :
      group.filter (fun file => file.path.same gem.entryPath) = [] := by
    apply List.filter_eq_nil_iff.mpr
    intro file member
    rw [apart file member]
    exact Bool.false_ne_true
  have base := dropped fun _ member => not_same_of_mem flat (List.mem_append_left _ member)
  have resources := dropped fun _ member => not_same_of_mem flat (List.mem_append_right _ member)
  have others := dropped fun _ member =>
    not_same_of_not_below flat (not_isBelow_of_mem flat (List.mem_map_of_mem member))
  have entry : [gem.entryFile].filter (fun file => file.path.same gem.entryPath) =
      [gem.entryFile] := by
    simp [entryFile, sourceFile, same]
  unfold files
  rw [List.append_assoc _ gem.documents, List.filter_append, List.filter_append,
    List.filter_append, base, entry, resources, others]
  rfl

end Flat

end ClientGem.Gem
