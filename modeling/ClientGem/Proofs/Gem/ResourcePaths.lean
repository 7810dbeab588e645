import ClientGem.Proofs.Gem.Confinement
import ClientGem.Proofs.Ruby.Statement

/-!
The resources that the paths of a gem's files name. They stand together in one directory of the
library, unless the name of the API is absolute and takes the place of what it is joined to.
-/

namespace ClientGem

open Ruby

namespace FilePath

def slashBehind (base : FilePath) : String :=
  if base.endsInSlash then "" else "/"

theorem text_join {base path : FilePath} (relative : path.text.toList.head? ≠ some '/')
    (nonempty : base.text ≠ "") :
    (base.join path).text = base.text ++ base.slashBehind ++ path.text := by
  have isEmpty : base.isEmpty = false := by simpa [FilePath.isEmpty] using nonempty
  unfold join slashBehind
  rw [isAbsolute_eq_false relative, isEmpty]
  cases base.endsInSlash <;> simp

theorem head_join {base path : FilePath} (relative : path.text.toList.head? ≠ some '/')
    (nonempty : base.text ≠ "") :
    (base.join path).text.toList.head? = base.text.toList.head? := by
  rw [text_join relative nonempty, String.append_assoc, String.toList_append,
    List.head?_append_of_ne_nil]
  simpa using nonempty

end FilePath

namespace Gem

open FilePath Output

def resourceDirectory (gem : Gem) : FilePath :=
  (⟨"lib/" ++ gem.fileStem⟩ : FilePath).join ⟨"resources/"⟩

def sourceNames (directory : FilePath) (paths : List FilePath) : List String :=
  paths.filterMap fun path => between? directory.text.toList ".rb".toList path.text.toList

variable {gem : Gem}

theorem sourceNames_append (directory : FilePath) (first second : List FilePath) :
    sourceNames directory (first ++ second) =
      sourceNames directory first ++ sourceNames directory second :=
  List.filterMap_append

theorem paths_eq : gem.files.map File.path =
    (gem.baseSources.map Prod.fst).map gem.libraryPath ++ ([gem.entryPath] ++
      (gem.resourceNames.map gem.resourcePath ++
        [⟨"docs/api.md"⟩, ⟨"README.md"⟩, ⟨"test/test_helper.rb"⟩, gem.testPath])) := by
  simp only [files, List.map_append, baseSourceFiles, resourceFiles, entryFile, documents,
    testFiles, sourceFile, resourceNames, Api.ResourceTable.names, List.map_map, List.append_assoc]
  rfl

def libraryStart (gem : Gem) : String :=
  "lib/" ++ gem.fileStem ++ (⟨"lib/" ++ gem.fileStem⟩ : FilePath).slashBehind

theorem resourceDirectory_text : gem.resourceDirectory.text = gem.libraryStart ++ "resources/" :=
  text_join (by decide) (by simp)

/-- A path that begins with another letter than that of the library is not in the directory. -/
theorem elsewhere {path : FilePath} (other : path.text.toList.head? ≠ some 'l') :
    between? gem.resourceDirectory.text.toList ".rb".toList path.text.toList = none := by
  apply between?_eq_none
  intro begins
  obtain ⟨behind, text⟩ := begins
  rw [← text, resourceDirectory_text, libraryStart] at other
  simp at other

theorem sourceNames_eq_nil {paths : List FilePath}
    (others : ∀ path ∈ paths, path.text.toList.head? ≠ some 'l') :
    sourceNames gem.resourceDirectory paths = [] :=
  List.filterMap_eq_nil_iff.mpr fun path member => elsewhere (others path member)

theorem prefix_behind_iff (front first second : String) :
    (front ++ first).toList <+: (front ++ second).toList ↔ first.toList <+: second.toList := by
  rw [String.toList_append, String.toList_append, List.prefix_append_right_inj]

theorem head_fileStem_append (more : String) :
    (gem.fileStem ++ more).toList.head? = gem.fileStem.toList.head? := by
  rw [String.toList_append, List.head?_append_of_ne_nil _ gem.fileStem_nonempty]

theorem ne_slash_of_mem_baseSources : ∀ name ∈ gem.baseSources.map Prod.fst,
    (name ++ ".rb").toList.head? ≠ some '/' ∧ ¬"resources/".toList <+: (name ++ ".rb").toList := by
  rw [baseSources_names]
  decide

section Relative

variable (relative : gem.fileStem.toList.head? ≠ some '/')
include relative

theorem libraryPath_text_of_relative {name : String}
    (below : (name ++ ".rb").toList.head? ≠ some '/') :
    (gem.libraryPath name).text = gem.libraryStart ++ (name ++ ".rb") := by
  have text : (FilePath.join ⟨"lib"⟩ ⟨gem.fileStem⟩).text = "lib" ++ "/" ++ gem.fileStem :=
    join_text relative (by decide) (by decide)
  have directory : FilePath.join ⟨"lib"⟩ ⟨gem.fileStem⟩ = ⟨"lib/" ++ gem.fileStem⟩ :=
    congrArg FilePath.mk text
  rw [libraryPath, directory, text_join below (by simp), libraryStart]

theorem sourceNames_libraryPaths :
    sourceNames gem.resourceDirectory
      ((gem.baseSources.map Prod.fst).map gem.libraryPath) = [] := by
  rw [sourceNames, List.filterMap_eq_nil_iff, List.forall_mem_map]
  intro name member
  obtain ⟨below, other⟩ := ne_slash_of_mem_baseSources name member
  apply between?_eq_none
  rw [libraryPath_text_of_relative relative below, resourceDirectory_text, prefix_behind_iff]
  exact other

theorem sourceNames_entryPath : sourceNames gem.resourceDirectory [gem.entryPath] = [] := by
  have stem : (gem.fileStem ++ ".rb").toList.head? ≠ some '/' := by rwa [head_fileStem_append]
  have joined : gem.entryPath.text = "lib/" ++ (gem.fileStem ++ ".rb") :=
    join_text stem (by decide) (by decide)
  have text : gem.entryPath.text = "lib/" ++ gem.fileStem ++ ".rb" := by
    rw [joined, String.append_assoc]
  have other : ¬((⟨"lib/" ++ gem.fileStem⟩ : FilePath).slashBehind ++ "resources/").toList <+:
      ".rb".toList := by
    unfold slashBehind
    split <;> decide
  have directory : gem.resourceDirectory.text = "lib/" ++ gem.fileStem ++
      ((⟨"lib/" ++ gem.fileStem⟩ : FilePath).slashBehind ++ "resources/") := by
    rw [resourceDirectory_text, libraryStart, String.append_assoc]
  rw [sourceNames, List.filterMap_eq_nil_iff, List.forall_mem_singleton]
  apply between?_eq_none
  rw [text, directory, prefix_behind_iff]
  exact other

theorem sourceNames_resourcePaths :
    sourceNames gem.resourceDirectory (gem.resourceNames.map gem.resourcePath) =
      gem.resourceNames := by
  have each (name : String) : between? gem.resourceDirectory.text.toList ".rb".toList
      (gem.resourcePath name).text.toList = some name := by
    have below : ("resources/" ++ name ++ ".rb").toList.head? ≠ some '/' := by simp
    have text : (gem.resourcePath name).text.toList =
        gem.resourceDirectory.text.toList ++ (name.toList ++ ".rb".toList) := by
      rw [resourcePath, libraryPath_text_of_relative relative below, resourceDirectory_text]
      simp only [String.toList_append, List.append_assoc]
    rw [text, between?_append, String.ofList_toList]
  rw [sourceNames, List.filterMap_map]
  simp only [Function.comp_def, each]
  exact List.filterMap_some

theorem sourceNames_of_relative :
    sourceNames gem.resourceDirectory (gem.files.map File.path) = gem.resourceNames := by
  have stem : (gem.fileStem ++ "_test.rb").toList.head? ≠ some '/' := by rwa [head_fileStem_append]
  have text : gem.testPath.text = "test/" ++ (gem.fileStem ++ "_test.rb") :=
    join_text stem (by decide) (by decide)
  have others : sourceNames gem.resourceDirectory
      [⟨"docs/api.md"⟩, ⟨"README.md"⟩, ⟨"test/test_helper.rb"⟩, gem.testPath] = [] := by
    apply sourceNames_eq_nil
    simp [text]
  rw [paths_eq, sourceNames_append, sourceNames_append, sourceNames_append,
    sourceNames_libraryPaths relative, sourceNames_entryPath relative,
    sourceNames_resourcePaths relative, others]
  simp

end Relative

section Absolute

variable (absolute : gem.fileStem.toList.head? = some '/')
include absolute

theorem head_join_of_absolute (base : FilePath) (more : String) :
    (base.join ⟨gem.fileStem ++ more⟩).text.toList.head? = some '/' := by
  have head : (gem.fileStem ++ more).toList.head? = some '/' := by
    rw [head_fileStem_append, absolute]
  rw [join_of_absolute base (isAbsolute_iff_head.mpr head)]
  exact head

theorem head_libraryPath {name : String} (below : (name ++ ".rb").toList.head? ≠ some '/') :
    (gem.libraryPath name).text.toList.head? = some '/' := by
  have head := head_join_of_absolute absolute ⟨"lib"⟩ ""
  rw [String.append_empty] at head
  have nonempty : (FilePath.join ⟨"lib"⟩ ⟨gem.fileStem⟩).text ≠ "" := by
    intro empty
    rw [empty] at head
    cases head
  rw [libraryPath, head_join below nonempty, head]

/-- No file stands in the directory for the resources when the name of the API is absolute. -/
theorem sourceNames_of_absolute :
    sourceNames gem.resourceDirectory (gem.files.map File.path) = [] := by
  have noLibrary {path : FilePath} (root : path.text.toList.head? = some '/') :
      path.text.toList.head? ≠ some 'l' := by
    rw [root]
    decide
  have base : ∀ path ∈ (gem.baseSources.map Prod.fst).map gem.libraryPath,
      path.text.toList.head? ≠ some 'l' :=
    List.forall_mem_map.mpr fun name member =>
      noLibrary (head_libraryPath absolute (ne_slash_of_mem_baseSources name member).1)
  have resources : ∀ path ∈ gem.resourceNames.map gem.resourcePath,
      path.text.toList.head? ≠ some 'l' :=
    List.forall_mem_map.mpr fun name _ => noLibrary (head_libraryPath absolute (by simp))
  have entry : gem.entryPath.text.toList.head? ≠ some 'l' :=
    noLibrary (head_join_of_absolute absolute ⟨"lib"⟩ ".rb")
  have test : gem.testPath.text.toList.head? ≠ some 'l' :=
    noLibrary (head_join_of_absolute absolute ⟨"test"⟩ "_test.rb")
  rw [paths_eq]
  apply sourceNames_eq_nil
  have others : ∀ path ∈ ([⟨"docs/api.md"⟩, ⟨"README.md"⟩, ⟨"test/test_helper.rb"⟩, gem.testPath] :
      List FilePath), path.text.toList.head? ≠ some 'l' := by
    simp [test]
  simp only [List.forall_mem_append, List.forall_mem_singleton]
  exact ⟨base, entry, resources, others⟩

end Absolute

/-- The paths name exactly the resources, unless the name of the API is absolute. -/
theorem sourceNames_paths_iff :
    sourceNames gem.resourceDirectory (gem.files.map File.path) = gem.resourceNames ↔
      gem.fileStem.toList.head? ≠ some '/' ∨ gem.resourceNames = [] := by
  by_cases absolute : gem.fileStem.toList.head? = some '/'
  · rw [sourceNames_of_absolute absolute, or_iff_right (not_not_intro absolute)]
    exact eq_comm
  · exact iff_of_true (sourceNames_of_relative absolute) (.inl absolute)

end Gem

end ClientGem
