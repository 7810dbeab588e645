import ClientGem.Gem.Files
import ClientGem.Proofs.FilePath.Components
import ClientGem.Proofs.Ruby.Name

/-!
The paths of the files of a gem, as texts and as components, for an API whose name has no slash.
-/

namespace ClientGem.Gem

open FilePath

section Members

variable (gem : Gem)

theorem libraryFile_mem {name : String} {source : Ruby.Source}
    (member : (name, source) ∈ gem.baseSources) :
    sourceFile (gem.libraryPath name) source ∈ gem.files := by
  have file : sourceFile (gem.libraryPath name) source ∈ gem.baseSourceFiles :=
    List.mem_map.mpr ⟨_, member, rfl⟩
  simp only [files, List.mem_append]
  exact .inl (.inl (.inl (.inl file)))

theorem configurationFile_mem :
    sourceFile (gem.libraryPath "configuration") gem.configurationSource ∈ gem.files :=
  gem.libraryFile_mem List.mem_cons_self

theorem clientFile_mem : sourceFile (gem.libraryPath "client") gem.clientSource ∈ gem.files :=
  gem.libraryFile_mem (.tail _ List.mem_cons_self)

theorem entryFile_mem : sourceFile gem.entryPath gem.entrySource ∈ gem.files := by
  simp [files, entryFile]

theorem resourceFile_mem {entry : String × Api.Resource} (member : entry ∈ gem.resources) :
    sourceFile (gem.resourcePath entry.1) (gem.resourceSource entry.1 entry.2) ∈ gem.files := by
  have file : sourceFile (gem.resourcePath entry.1) (gem.resourceSource entry.1 entry.2) ∈
      gem.resourceFiles := List.mem_map.mpr ⟨entry, member, rfl⟩
  simp only [files, List.mem_append]
  exact .inl (.inl (.inr file))

theorem referenceFile_mem : ⟨⟨"docs/api.md"⟩, gem.reference⟩ ∈ gem.files := by
  simp [files, documents]

theorem readmeFile_mem : ⟨⟨"README.md"⟩, gem.readme⟩ ∈ gem.files := by
  simp [files, documents]

theorem testFile_mem : sourceFile gem.testPath gem.testSuiteSource ∈ gem.files := by
  have file : sourceFile gem.testPath gem.testSuiteSource ∈ gem.testFiles :=
    List.mem_cons_of_mem _ List.mem_cons_self
  exact List.mem_append_right _ file

end Members

theorem apiName_ne_nil (gem : Gem) : gem.apiName.toList ≠ [] := by
  unfold apiName Api.Config.name
  split
  · next name _ =>
    split
    · decide
    · next visible =>
      intro empty
      exact visible (by rw [Unicode.isBlankText, empty]; rfl)
  · decide

theorem fileStem_nonempty (gem : Gem) : gem.fileStem.toList ≠ [] :=
  Ruby.fileStem_ne_nil gem.apiName_ne_nil

def IsInside (name : String) : Prop :=
  (name ++ ".rb").toList.head? ≠ some '/' ∧
    ∃ first rest, innerComponents (name ++ ".rb").toList = .name first :: rest ∧
      first ≠ "..rb".toList

section Flat

variable {gem : Gem} (flat : '/' ∉ gem.apiName.toList)
include flat

theorem fileStem_flat : '/' ∉ gem.fileStem.toList :=
  fun member => flat (Ruby.mem_of_mem_fileStem (by decide) member)

theorem fileStem_head (more : String) : (gem.fileStem ++ more).toList.head? ≠ some '/' := by
  obtain ⟨c, cs, stem⟩ := List.exists_cons_of_ne_nil gem.fileStem_nonempty
  have head : (gem.fileStem ++ more).toList.head? = some c := by
    rw [String.toList_append, stem]
    rfl
  rw [head]
  rintro ⟨⟩
  exact fileStem_flat flat (stem ▸ List.mem_cons_self)

theorem libraryPath_text (name : String) (relative : (name ++ ".rb").toList.head? ≠ some '/') :
    (gem.libraryPath name).text = "lib/" ++ gem.fileStem ++ "/" ++ (name ++ ".rb") := by
  have directory : (FilePath.join ⟨"lib"⟩ ⟨gem.fileStem⟩).text = "lib/" ++ gem.fileStem := by
    rw [join_text (by simpa using fileStem_head flat "") (by decide) (by decide)]
    rfl
  have open_end : ("lib/" ++ gem.fileStem).toList.getLast? ≠ some '/' := by
    rw [String.toList_append, List.getLast?_append,
      List.getLast?_eq_some_getLast gem.fileStem_nonempty]
    intro same
    exact fileStem_flat flat (Option.some.inj same ▸ List.getLast_mem gem.fileStem_nonempty)
  have nonempty : "lib/" ++ gem.fileStem ≠ "" := by simp
  unfold libraryPath
  rw [join_text relative (directory ▸ nonempty) (directory ▸ open_end), directory]

theorem entryPath_text : gem.entryPath.text = "lib/" ++ (gem.fileStem ++ ".rb") := by
  unfold entryPath
  rw [join_text (fileStem_head flat ".rb") (by decide) (by decide)]
  rfl

theorem testPath_text : gem.testPath.text = "test/" ++ (gem.fileStem ++ "_test.rb") := by
  unfold testPath
  rw [join_text (fileStem_head flat "_test.rb") (by decide) (by decide)]
  rfl

theorem libraryPath_components (name : String)
    (relative : (name ++ ".rb").toList.head? ≠ some '/') :
    (gem.libraryPath name).components = .name "lib".toList ::
      (innerComponents gem.fileStem.toList ++ innerComponents (name ++ ".rb").toList) := by
  have text : (gem.libraryPath name).text.toList =
      "lib".toList ++ '/' :: (gem.fileStem.toList ++ '/' :: (name ++ ".rb").toList) := by
    rw [libraryPath_text flat name relative]
    simp
  rw [components_below text (by decide) (by decide), innerComponents_append_slash]

theorem entryPath_components : gem.entryPath.components =
    [.name "lib".toList, .name (gem.fileStem ++ ".rb").toList] := by
  have text : gem.entryPath.text.toList =
      "lib".toList ++ '/' :: (gem.fileStem ++ ".rb").toList := by
    rw [entryPath_text flat]
    simp
  have ordinary : IsOrdinary (gem.fileStem ++ ".rb").toList := by
    rw [String.toList_append]
    exact isOrdinary_append (fileStem_flat flat) gem.fileStem_nonempty _ (by decide) (by decide)
  rw [components_below text (by decide) (by decide), innerComponents_of_ordinary ordinary]

theorem testPath_components : gem.testPath.components =
    [.name "test".toList, .name (gem.fileStem ++ "_test.rb").toList] := by
  have text : gem.testPath.text.toList =
      "test".toList ++ '/' :: (gem.fileStem ++ "_test.rb").toList := by
    rw [testPath_text flat]
    simp
  have ordinary : IsOrdinary (gem.fileStem ++ "_test.rb").toList := by
    rw [String.toList_append]
    exact isOrdinary_append (fileStem_flat flat) gem.fileStem_nonempty _ (by decide) (by decide)
  rw [components_below text (by decide) (by decide), innerComponents_of_ordinary ordinary]

/-- No file of the library has the path of the entry file: it lies deeper, or, when the name of the
API is a single dot, begins with another component. -/
theorem libraryPath_ne_entryPath {name : String} (inside : IsInside name) :
    (gem.libraryPath name).same gem.entryPath = false := by
  obtain ⟨relative, first, rest, inner, ne_dot⟩ := inside
  unfold FilePath.same
  rw [libraryPath_components flat name relative, entryPath_components flat, inner]
  apply beq_eq_false_iff_ne.mpr
  intro same
  rcases innerComponents_of_flat (fileStem_flat flat) with ⟨idle, none⟩ | one
  · have dot : gem.fileStem.toList = here := by
      simpa [isIdle, gem.fileStem_nonempty] using idle
    rw [none] at same
    simp [String.toList_append, dot, here] at same
    exact ne_dot (by rw [same.1]; rfl)
  · rw [one] at same
    simp at same

end Flat

end ClientGem.Gem
