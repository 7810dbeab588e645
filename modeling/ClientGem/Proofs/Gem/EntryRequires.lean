import ClientGem.Proofs.Gem.LibraryFiles
import ClientGem.Proofs.Ruby.Statement

/-!
The entry file read as the loader reads it: what it requires is what is generated beside it.
-/

namespace ClientGem.Gem

open FilePath Output Ruby

def requireStart : List Char :=
  "require_relative \"".toList

/-- What a line requires, if it is nothing but a requirement. -/
def requireTarget? (line : String) : Option String :=
  between? requireStart ['"'] line.toList

def requireTargets (content : String) : List String :=
  (Text.lines content).filterMap requireTarget?

def targetPath (target : String) : FilePath :=
  ⟨"lib/" ++ target ++ ".rb"⟩

theorem requireTarget?_requireLine (target : String) :
    requireTarget? ("require_relative \"" ++ target ++ "\"") = some target := by
  have text : ("require_relative \"" ++ target ++ "\"").toList =
      requireStart ++ (target.toList ++ ['"']) := by
    rw [String.toList_append, String.toList_append, List.append_assoc]
    rfl
  rw [requireTarget?, text, between?_append, String.ofList_toList]

theorem requireTarget?_eq_none {line : String} (other : line.toList.head? ≠ some 'r') :
    requireTarget? line = none := by
  apply between?_eq_none
  rintro ⟨rest, text⟩
  apply other
  rw [← text]
  rfl

theorem written_requireLines {α : Type} (items : List α) (target : α → String) :
    (Source.written 0 (items.map fun item => requireLine (target item))).filterMap requireTarget? =
      items.map target := by
  induction items with
  | nil => rfl
  | cons item items ih =>
    have line : Source.indent 0 ("require_relative \"" ++ target item ++ "\"") =
        "require_relative \"" ++ target item ++ "\"" := by
      simp [Source.indent]
    rw [List.map_cons, Source.written, List.filterMap_append, ih, requireLine, Item.written, line]
    simp [requireTarget?_requireLine]

theorem unbroken_requireLines {α : Type} (items : List α) (target : α → String)
    (unbroken : ∀ item ∈ items, '\n' ∉ (target item).toList) :
    Source.Unbroken (items.map fun item => requireLine (target item)) := by
  induction items with
  | nil => trivial
  | cons item items ih =>
    refine ⟨?_, ih fun other member => unbroken other (List.mem_cons_of_mem _ member)⟩
    have inTarget := unbroken item List.mem_cons_self
    show '\n' ∉ ("require_relative \"" ++ target item ++ "\"").toList
    simp [inTarget]

/-- Behind the requirements, the entry file has only the module. -/
theorem entrySource_eq (gem : Gem) : ∃ body : Source,
    gem.entrySource = Source.preamble ++
      baseFiles.map (fun file => requireLine (gem.fileStem ++ "/" ++ file)) ++
      [.blank, .line "# Resources"] ++
      gem.resourceNames.map (fun name => requireLine (gem.fileStem ++ "/resources/" ++ name)) ++
      [.blank, .block ("module " ++ gem.moduleName) body] ∧
    Source.Unbroken body ∧ (Source.written 1 body).filterMap requireTarget? = [] := by
  refine ⟨_, rfl, ?_, ?_⟩
  · simp [Source.Unbroken, Item.Unbroken, method]
  · decide +kernel

theorem written_module_requires_none {name : String} {body : Source}
    (oneLine : '\n' ∉ name.toList)
    (inBody : (Source.written 1 body).filterMap requireTarget? = []) :
    (Source.written 0 [.blank, .block ("module " ++ name) body]).filterMap requireTarget? = [] := by
  have header : Text.lines ("module " ++ name) = ["module " ++ name] :=
    Text.lines_of_unbroken (by simp [oneLine])
  have indented : Source.indent 0 ("module " ++ name) = "module " ++ name := by
    simp [Source.indent]
  have other : requireTarget? ("module " ++ name) = none :=
    requireTarget?_eq_none (by simp)
  have ending : requireTarget? (Source.indent 0 "end") = none := by decide
  simp only [Source.written, Item.written, header, List.map_cons, List.map_nil, indented,
    List.nil_append, List.append_nil, List.filterMap_append, List.filterMap_cons, other, inBody,
    ending, List.filterMap_nil]

theorem newline_not_mem_stem {gem : Gem} (oneLine : '\n' ∉ gem.apiName.toList) :
    '\n' ∉ gem.fileStem.toList :=
  fun member => oneLine (mem_of_mem_fileStem (by decide) member)

section OneLine

variable {gem : Gem} (oneLine : '\n' ∉ gem.apiName.toList)
  (names : ∀ name ∈ gem.resourceNames, '\n' ∉ name.toList)
include oneLine names

theorem unbroken_entrySource : Source.Unbroken gem.entrySource := by
  obtain ⟨body, source, inBody, -⟩ := gem.entrySource_eq
  have inStem := newline_not_mem_stem oneLine
  have base : ∀ file ∈ baseFiles, '\n' ∉ (gem.fileStem ++ "/" ++ file).toList := by
    intro file member
    have inFiles : ∀ file ∈ baseFiles, '\n' ∉ file.toList := by decide
    simp [inStem, inFiles file member]
  have resources : ∀ name ∈ gem.resourceNames,
      '\n' ∉ (gem.fileStem ++ "/resources/" ++ name).toList := by
    intro name member
    simp [inStem, names name member]
  rw [source]
  simp only [Source.unbroken_append]
  refine ⟨⟨⟨⟨?_, unbroken_requireLines _ _ base⟩, ?_⟩, unbroken_requireLines _ _ resources⟩, ?_⟩
  · simp [Source.preamble, Source.Unbroken, Item.Unbroken]
  · simp [Source.Unbroken, Item.Unbroken]
  · exact ⟨trivial, inBody, trivial⟩

/-- The entry file requires the base files and then the resources, and nothing else. -/
theorem requireTargets_entrySource : requireTargets gem.entrySource.layout =
    baseFiles.map (fun file => gem.fileStem ++ "/" ++ file) ++
      gem.resourceNames.map (fun name => gem.fileStem ++ "/resources/" ++ name) := by
  have skips : requireTarget? "" = none := by decide
  have unbroken := unbroken_entrySource oneLine names
  obtain ⟨body, source, -, inBody⟩ := gem.entrySource_eq
  have preamble : (Source.written 0 Source.preamble).filterMap requireTarget? = [] := by decide
  have comment :
      (Source.written 0 [.blank, .line "# Resources"]).filterMap requireTarget? = [] := by
    decide
  have module : (Source.written 0
      [.blank, .block ("module " ++ gem.moduleName) body]).filterMap requireTarget? = [] :=
    written_module_requires_none (newline_not_mem_moduleName oneLine) inBody
  unfold requireTargets
  rw [← Source.filterMap_nonblank skips, Source.nonblank_lines_layout unbroken,
    Source.filterMap_nonblank skips, source]
  simp only [Source.written_append, List.filterMap_append, written_requireLines, preamble, comment,
    module, List.nil_append, List.append_nil]

end OneLine

theorem targetPath_components {gem : Gem} (flat : '/' ∉ gem.apiName.toList)
    {name : String} (inside : IsInside name) :
    (targetPath (gem.fileStem ++ "/" ++ name)).components = (gem.libraryPath name).components := by
  have text : (targetPath (gem.fileStem ++ "/" ++ name)).text = (gem.libraryPath name).text := by
    unfold targetPath
    rw [libraryPath_text flat name inside.1]
    simp [String.append_assoc]
  rw [components, components, start, start, body, body, text]

/-- The entry file requires exactly what is generated for it to load, each file as often as it is
written, with the resources last and in their order. -/
theorem entry_requires_emitted (gem : Gem) (files : List File) (accepted : gem.render = .ok files)
    (flat : '/' ∉ gem.apiName.toList) (oneLine : '\n' ∉ gem.apiName.toList)
    (names : ∀ name ∈ gem.resourceNames, '\n' ∉ name.toList) :
    ∃ entry, files.filter (fun file => file.path.same gem.entryPath) = [entry] ∧
      (((requireTargets entry.content).map targetPath).map components).Perm
        (((files.map File.path).filter gem.isLoaded).map components) ∧
      requireTargets entry.content = baseFiles.map (fun file => gem.fileStem ++ "/" ++ file) ++
        gem.resourceNames.map (fun name => gem.fileStem ++ "/resources/" ++ name) := by
  obtain rfl := files_of_render accepted
  have targets := requireTargets_entrySource oneLine names
  refine ⟨gem.entryFile, filter_same_entryPath flat, ?_, targets⟩
  have required : requireTargets gem.entryFile.content =
      (baseFiles ++ gem.resourceNames.map ("resources/" ++ ·)).map (gem.fileStem ++ "/" ++ ·) := by
    have within (name : String) :
        gem.fileStem ++ "/resources/" ++ name = gem.fileStem ++ "/" ++ ("resources/" ++ name) := by
      have slash : "/resources/" = "/" ++ "resources/" := by decide
      rw [slash, String.append_assoc, String.append_assoc, String.append_assoc]
    unfold entryFile sourceFile
    rw [targets, List.map_append, List.map_map]
    simp only [within, Function.comp_def]
  have order : (baseFiles ++ gem.resourceNames.map ("resources/" ++ ·)).Perm gem.libraryNames :=
    gem.baseFiles_perm.append_right _
  have paths : gem.libraryNames.map (components ∘ targetPath ∘ (gem.fileStem ++ "/" ++ ·)) =
      gem.libraryNames.map (components ∘ gem.libraryPath) := by
    apply List.map_congr_left
    intro name member
    exact targetPath_components flat (gem.isInside_of_mem_libraryNames name member)
  rw [required, filter_isLoaded_paths flat, List.map_map, List.map_map, List.map_map, ← paths]
  exact order.map _

def shop : Gem where
  api.nameSetting := some "Book Shop"
  api.resources :=
    (Api.ResourceTable.empty.insert "orders" { endpoints := [{ name := "list" }] }).insert
      "../books" { endpoints := [] }

theorem entry_requires_emitted_shop : ∃ entry,
    shop.files.filter (fun file => file.path.same shop.entryPath) = [entry] ∧
      (((requireTargets entry.content).map targetPath).map components).Perm
        (((shop.files.map File.path).filter shop.isLoaded).map components) ∧
      requireTargets entry.content = baseFiles.map (fun file => shop.fileStem ++ "/" ++ file) ++
        shop.resourceNames.map (fun name => shop.fileStem ++ "/resources/" ++ name) := by
  have complete : shop.missingName? = none := by decide +kernel
  have accepted : shop.render = .ok shop.files := render_of_complete complete
  exact entry_requires_emitted shop shop.files accepted (by decide) (by decide) (by decide)

end ClientGem.Gem
