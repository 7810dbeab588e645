import ClientGem.Proofs.Gem.Places
import ClientGem.Proofs.Output.Memory

/-!
A gem built into memory. For names without slashes no two of its files have the same path, so that
none takes the place of another, and the files are held as they were generated.
-/

namespace ClientGem.Gem

open FilePath Output

structure NamesFlat (gem : Gem) : Prop where
  api : '/' ∉ gem.apiName.toList
  resources : ∀ name ∈ gem.resourceNames, '/' ∉ name.toList

theorem innerComponents_resource {name : String} (flat : '/' ∉ name.toList) :
    innerComponents ("resources/" ++ name ++ ".rb").toList =
      [.name "resources".toList, .name (name ++ ".rb").toList] := by
  have text : ("resources/" ++ name ++ ".rb").toList =
      "resources".toList ++ '/' :: (name ++ ".rb").toList := by
    simp
  have ordinary : IsOrdinary (name ++ ".rb").toList := by
    rw [String.toList_append]
    apply isOrdinary_of_long
    · simp [flat]
    · simp
  have resources : IsOrdinary "resources".toList := by decide
  rw [text, innerComponents_append_slash, innerComponents_of_ordinary resources,
    innerComponents_of_ordinary ordinary]
  rfl

section Flat

variable {gem : Gem} (flat : gem.NamesFlat)
include flat

theorem nodup_libraryEnds :
    (gem.libraryNames.map fun name => innerComponents (name ++ ".rb").toList).Nodup := by
  have base : ((gem.baseSources.map Prod.fst).map
      fun name => innerComponents (name ++ ".rb").toList).Nodup := by
    rw [baseSources_names]
    decide
  have baseDepth : ∀ above ∈ (gem.baseSources.map Prod.fst).map
      (fun name => innerComponents (name ++ ".rb").toList), above.length = 1 := by
    rw [baseSources_names]
    decide
  have ends : gem.resourceNames.map (fun name =>
        innerComponents ("resources/" ++ name ++ ".rb").toList) =
      gem.resourceNames.map fun name =>
        [.name "resources".toList, .name (name ++ ".rb").toList] :=
    List.map_congr_left fun name member => innerComponents_resource (flat.resources name member)
  have injective : Function.Injective fun name : String =>
      [Component.name "resources".toList, .name (name ++ ".rb").toList] := by
    intro first second same
    exact String.toList_inj.mp (by simpa using same)
  -- The files of the resources lie one step deeper than the others.
  rw [libraryNames, List.map_append, List.nodup_append]
  refine ⟨base, ?_, ?_⟩
  · rw [List.map_map]
    exact ends ▸ List.Nodup.map injective gem.api.resources.names_nodup
  · rintro first inBase second inResources rfl
    have depth := baseDepth first inBase
    rw [List.map_map] at inResources
    have inEnds : first ∈ gem.resourceNames.map fun name =>
        [.name "resources".toList, .name (name ++ ".rb").toList] := ends ▸ inResources
    obtain ⟨name, -, rfl⟩ := List.mem_map.mp inEnds
    cases depth

theorem nodup_libraryComponents :
    ((gem.libraryNames.map gem.libraryPath).map FilePath.components).Nodup := by
  have components : (gem.libraryNames.map gem.libraryPath).map FilePath.components =
      (gem.libraryNames.map fun name => innerComponents (name ++ ".rb").toList).map
        fun ending => .name "lib".toList :: (innerComponents gem.fileStem.toList ++ ending) := by
    rw [List.map_map, List.map_map]
    apply List.map_congr_left
    intro name member
    exact libraryPath_components flat.api name (gem.isInside_of_mem_libraryNames name member).1
  rw [components]
  apply List.Nodup.map _ (nodup_libraryEnds flat)
  intro first second same
  exact List.append_cancel_left (List.cons.inj same).2

theorem nodup_fixedComponents : (gem.fixedPaths.map FilePath.components).Nodup := by
  have documents : (⟨"docs/api.md"⟩ : FilePath).components =
      [.name "docs".toList, .name "api.md".toList] := by decide
  have readme : (⟨"README.md"⟩ : FilePath).components = [.name "README.md".toList] := by decide
  have helper : (⟨"test/test_helper.rb"⟩ : FilePath).components =
      [.name "test".toList, .name "test_helper.rb".toList] := by decide
  have apart : "test_helper.rb".toList ≠ (gem.fileStem ++ "_test.rb").toList :=
    fun same => testHelper_ne_test (String.toList_inj.mp same)
  simp only [fixedPaths, List.map_cons, List.map_nil, entryPath_components flat.api,
    testPath_components flat.api, documents, readme, helper]
  simpa using apart

/-- A file outside the library lies elsewhere, or is the entry file. -/
theorem libraryPath_ne_fixedPath {name : String} (member : name ∈ gem.libraryNames) :
    ∀ path ∈ gem.fixedPaths, (gem.libraryPath name).components ≠ path.components := by
  have inside := gem.isInside_of_mem_libraryNames name member
  have below := isBelow_libraryPath flat.api inside
  have elsewhere {path : FilePath} (outside : isBelow ⟨"lib"⟩ path = false) :
      (gem.libraryPath name).components ≠ path.components := by
    intro same
    rw [isBelow, ← same, ← isBelow, below] at outside
    cases outside
  have documents : ∀ path ∈ ([⟨"docs/api.md"⟩, ⟨"README.md"⟩, ⟨"test/test_helper.rb"⟩] :
      List FilePath), isBelow ⟨"lib"⟩ path = false := by decide
  apply gem.forall_mem_fixedPaths
  · exact FilePath.same_eq_false_iff.mp (libraryPath_ne_entryPath flat.api inside)
  · exact elsewhere (isBelow_testPath flat.api)
  · exact fun path isDocument => elsewhere (documents path isDocument)

theorem nodup_components : (gem.files.map (·.path.components)).Nodup := by
  have components : gem.files.map (·.path.components) =
      (gem.files.map File.path).map FilePath.components := by rw [List.map_map]; rfl
  rw [components, (gem.paths_perm.map FilePath.components).nodup_iff, List.map_append,
    List.nodup_append]
  refine ⟨nodup_libraryComponents flat, nodup_fixedComponents flat, ?_⟩
  intro first inLibrary second inFixed
  obtain ⟨path, inPaths, rfl⟩ := List.mem_map.mp inLibrary
  obtain ⟨name, member, rfl⟩ := List.mem_map.mp inPaths
  obtain ⟨other, isFixed, rfl⟩ := List.mem_map.mp inFixed
  exact libraryPath_ne_fixedPath flat member other isFixed

/-- The files of a gem that is built into memory are held in their order, each under its own path
and with its own content. -/
theorem memoryBuild {ε : Type} {files : List File} (accepted : gem.render = .ok files) :
    files.Pairwise (fun earlier later => earlier.path.same later.path = false) ∧
      ∃ memory : Memory,
        gem.build (Memory.sink : Sink (StateM Memory) ε) {} = (.ok (files.map File.path), memory) ∧
        memory.files = files ∧ ∀ file ∈ files, memory.get? file.path = some file.content := by
  obtain rfl := files_of_render accepted
  have distinct : gem.files.Pairwise
      fun earlier later => earlier.path.same later.path = false := by
    apply (List.pairwise_map.mp (nodup_components flat)).imp
    intro earlier later apart
    exact FilePath.same_eq_false_iff.mpr apart
  refine ⟨distinct, ⟨gem.files⟩, ?_, rfl,
    fun file member => Memory.get?_of_distinct distinct member⟩
  rw [build_of_ok accepted, writeFiles_of_takes (Memory.takes_sink {} gem.files),
    Memory.stateAfter_of_distinct distinct]
  rfl

end Flat

def dotted : Gem where
  api.nameSetting := some "."
  api.resources :=
    ((Api.ResourceTable.empty.insert ".." { endpoints := [{ name := "list" }] }).insert
      "client" { endpoints := [] }).insert "." { endpoints := [] }

theorem memoryBuild_dotted : dotted.NamesFlat ∧ dotted.render = .ok dotted.files ∧
    dotted.files.Pairwise (fun earlier later => earlier.path.same later.path = false) ∧
      ∃ memory : Memory,
        dotted.build (Memory.sink : Sink (StateM Memory) Empty) {} =
          (.ok (dotted.files.map File.path), memory) ∧
        memory.files = dotted.files ∧
        ∀ file ∈ dotted.files, memory.get? file.path = some file.content := by
  have complete : dotted.missingName? = none := by decide +kernel
  have accepted : dotted.render = .ok dotted.files := render_of_complete complete
  have flat : dotted.NamesFlat := ⟨by decide, by decide⟩
  exact ⟨flat, accepted, memoryBuild flat accepted⟩

end ClientGem.Gem
