import ClientGem.Proofs.Gem.Definitions
import ClientGem.Proofs.Gem.EntryRequires
import ClientGem.Proofs.Gem.OneLine
import ClientGem.Proofs.Gem.ReferenceContents
import ClientGem.Proofs.Gem.ResourcePaths
import ClientGem.Proofs.Ruby.Statement

/-!
The resources that the files of a gem speak of, read from their texts: the readers of the client,
the requirements of the entry file, the paths of the files, the links of the reference and the tests
of the client name the same resources in the same order.
-/

namespace ClientGem.Gem

open Api Output Ruby Source

def behindInitialize (definitions : List String) : List String :=
  (definitions.dropWhile fun definition =>
    !"initialize(".toList.isPrefixOf definition.toList).drop 1

theorem behindInitialize_cons (arguments : String) (others : List String) :
    behindInitialize (("initialize(" ++ arguments) :: others) = others := by
  rw [behindInitialize, List.dropWhile_cons_of_neg (by simp)]
  rfl

def accessorNames (content : String) : List String :=
  behindInitialize (statements 2 "def " (Text.lines content))

def instantiated? (name assignment : String) : Option String :=
  between? (name ++ " ||= Resources::").toList ".new(self)".toList assignment.toList

/-- The readers of the client, each with the class of its resource; the first variable is the
configuration. -/
def accessors (content : String) : List (String × Option String) :=
  List.zipWith (fun name assignment => (name, instantiated? name assignment))
    (accessorNames content) ((statements 3 "@" (Text.lines content)).drop 1)

theorem instantiated?_reader (name className : String) :
    instantiated? name (name ++ " ||= Resources::" ++ className ++ ".new(self)") =
      some className := by
  have spelled : (name ++ " ||= Resources::" ++ className ++ ".new(self)").toList =
      (name ++ " ||= Resources::").toList ++ (className.toList ++ ".new(self)".toList) := by
    simp only [String.toList_append, List.append_assoc]
  rw [instantiated?, spelled, between?_append, String.ofList_toList]

def requiredResources (stem content : String) : List String :=
  (requireTargets content).filterMap fun target =>
    between? (stem ++ "/resources/").toList [] target.toList

def respondsTo (text : String) : List String :=
  statements 2 "assert_respond_to client, :" ((Text.lines text).takeWhile (· != "  end"))

def linesBeforeClientTest (gem : Gem) : List String :=
  written 0 (preamble ++ [.line "require \"test_helper\"", .blank]) ++
    indent 0 ("class " ++ gem.moduleName ++ "Test < Minitest::Test") ::
      written 1 [gem.setupTest, .blank, gem.configurationTest, .blank]

def declaredClasses (content : String) : List String :=
  statements 2 "class " (Text.lines content)

/-- What a resource defines behind `initialize`, with the arguments. -/
def methodSignatures (content : String) : List String :=
  (behindInitialize (statements 3 "def " (Text.lines content))).map ("def " ++ ·)

theorem clientSource_eq (gem : Gem) : gem.clientSource = preamble ++
    [.block ("module " ++ gem.moduleName) [.block "class Client" gem.clientMembers]] :=
  rfl

theorem resourceSource_eq (gem : Gem) (name : String) (resource : Resource) :
    gem.resourceSource name resource = preamble ++ [.block ("module " ++ gem.moduleName)
      [.block "module Resources" [.block ("class " ++ className name)
        (gem.resourceMembers resource)]]] :=
  rfl

def clientAssertions (gem : Gem) : List String :=
  [ "client = " ++ gem.moduleName ++ ".client",
    "assert_instance_of " ++ gem.moduleName ++ "::Client, client",
    "assert_same " ++ gem.moduleName ++ ".configuration, client.configuration" ] ++
  gem.resourceNames.map ("assert_respond_to client, :" ++ ·)

theorem written_clientTest (gem : Gem) : gem.clientTest.written 1 =
    "  def test_client_initialization" :: (gem.clientAssertions.map (indent 2) ++ ["  end"]) := by
  have first : indent 1 "def test_client_initialization" = "  def test_client_initialization" := by
    decide
  have last : indent 1 "end" = "  end" := by decide
  have names : written 2 (gem.resourceNames.map fun name =>
      .line ("assert_respond_to client, :" ++ name)) =
        (gem.resourceNames.map ("assert_respond_to client, :" ++ ·)).map (indent 2) := by
    induction gem.resourceNames with
    | nil => rfl
    | cons name names ih =>
      rw [List.map_cons, written, ih]
      rfl
  rw [clientTest, written_block (by decide), written_append, names, first, last, clientAssertions,
    List.map_append]
  rfl

theorem statements_clientAssertions (gem : Gem) : statements 2 "assert_respond_to client, :"
    (gem.clientAssertions.map (indent 2)) = gem.resourceNames := by
  have client : statement? 2 "assert_respond_to client, :"
      (indent 2 ("client = " ++ (gem.moduleName ++ ".client"))) = none :=
    statement?_of_apart (by decide) (by decide) _
  have kind : statement? 2 "assert_respond_to client, :"
      (indent 2 ("assert_instance_of " ++ (gem.moduleName ++ "::Client, client"))) = none :=
    statement?_of_apart (by decide) (by decide) _
  have configuration : statement? 2 "assert_respond_to client, :"
      (indent 2 ("assert_same " ++ (gem.moduleName ++ ".configuration, client.configuration"))) =
        none :=
    statement?_of_apart (by decide) (by decide) _
  have names : statements 2 "assert_respond_to client, :"
      ((gem.resourceNames.map ("assert_respond_to client, :" ++ ·)).map (indent 2)) =
        gem.resourceNames := by
    have each (name : String) : statement? 2 "assert_respond_to client, :"
        (indent 2 ("assert_respond_to client, :" ++ name)) = some name :=
      statement?_indent (by decide) name
    rw [statements, List.filterMap_map, List.filterMap_map]
    simp only [Function.comp_def, each]
    exact List.filterMap_some
  rw [clientAssertions, List.map_append, statements_append, names]
  simp only [List.map_cons, List.map_nil, String.append_assoc, statements_cons_none client,
    statements_cons_none kind, statements_cons_none configuration]
  rfl

theorem written_testSuiteSource (gem : Gem)
    (header : '\n' ∉ ("class " ++ gem.moduleName ++ "Test < Minitest::Test").toList) :
    written 0 gem.testSuiteSource = gem.linesBeforeClientTest ++
      ("  def test_client_initialization" :: (gem.clientAssertions.map (indent 2) ++ ("  end" ::
        (written 1 ([.blank, gem.errorTest, .blank, gem.errorResponseTest] ++
          eachAfterBlank gem.endpointTests) ++ [indent 0 "end"])))) := by
  have body : written 1 ([gem.setupTest, .blank, gem.configurationTest, .blank] ++
      ([gem.clientTest] ++ ([.blank, gem.errorTest, .blank, gem.errorResponseTest] ++
        eachAfterBlank gem.endpointTests))) =
      written 1 [gem.setupTest, .blank, gem.configurationTest, .blank] ++
        (gem.clientTest.written 1 ++ written 1 ([.blank, gem.errorTest, .blank,
          gem.errorResponseTest] ++ eachAfterBlank gem.endpointTests)) := by
    rw [written_append, written_append, written_singleton]
  have source : gem.testSuiteSource = (preamble ++ [.line "require \"test_helper\"", .blank]) ++
      [.block ("class " ++ gem.moduleName ++ "Test < Minitest::Test")
        ([gem.setupTest, .blank, gem.configurationTest, .blank] ++ ([gem.clientTest] ++
          ([.blank, gem.errorTest, .blank, gem.errorResponseTest] ++
            eachAfterBlank gem.endpointTests)))] := rfl
  rw [source, written_append, written_singleton, written_block header, body, written_clientTest,
    linesBeforeClientTest]
  simp only [List.append_assoc, List.cons_append, List.nil_append]

theorem assignments_method {signature text : String} (signed : '\n' ∉ signature.toList) :
    statements 3 "@" ((method signature ["@" ++ text]).written 2) = [text] := by
  have header : '\n' ∉ ("def " ++ signature).toList := by simp [signed]
  have opened : statement? 3 "@" (indent 2 ("def " ++ signature)) = none :=
    statement?_of_apart (by decide) (by decide) _
  rw [method, statements_block header opened (by decide), List.map_singleton, written_singleton,
    Item.written, statements_cons_some (statement?_indent (by decide) text)]
  rfl

variable {gem : Gem} (unbroken : gem.NamesUnbroken)
include unbroken

theorem NamesUnbroken.module : '\n' ∉ gem.moduleName.toList :=
  newline_not_mem_moduleName unbroken.api

section Client

theorem unbroken_reader {name : String} (member : name ∈ gem.resourceNames) :
    (resourceReader name).Unbroken := by
  have inName := unbroken.resources name member
  have inClass := newline_not_mem_className inName
  simp [resourceReader, method, Item.Unbroken, Unbroken, inName, inClass]

theorem unbroken_clientSource : Unbroken gem.clientSource := by
  have module := unbroken.module
  have readers : Unbroken (eachAfterBlank (gem.resourceNames.map resourceReader)) :=
    unbroken_eachAfterBlank.mpr (unbroken_map fun _ member => unbroken_reader unbroken member)
  have members : Unbroken gem.clientMembers :=
    unbroken_append.mpr ⟨by simp [Unbroken, Item.Unbroken, method], readers⟩
  exact unbroken_append.mpr ⟨by simp [preamble, Unbroken, Item.Unbroken],
    ⟨members, trivial⟩, trivial⟩

theorem definitions_clientSource : statements 2 "def " (written 0 gem.clientSource) =
    ("initialize(" ++ ("configuration = " ++ gem.moduleName ++ ".configuration)")) ::
      gem.resourceNames := by
  have module : '\n' ∉ ("module " ++ gem.moduleName).toList := by simp [unbroken.module]
  have first : '\n' ∉ ("initialize(configuration = " ++ gem.moduleName ++
      ".configuration)").toList := by simp [unbroken.module]
  have opened : statement? 2 "def " (indent 0 ("module " ++ gem.moduleName)) = none :=
    statement?_of_apart (by decide) (by decide) _
  have preambled : statements 2 "def " (written 0 preamble) = [] := by decide
  have readers : statements 2 "def " (written 2 (gem.resourceNames.map resourceReader)) =
      gem.resourceNames.map id :=
    statements_map fun name member => definitions_block (unbroken.resources name member) _
  have spelled : "initialize(configuration = " ++ gem.moduleName ++ ".configuration)" =
      "initialize(" ++ ("configuration = " ++ gem.moduleName ++ ".configuration)") := by
    simp only [← String.append_assoc]
    rfl
  rw [clientSource_eq, written_append, statements_append, preambled, List.nil_append,
    written_singleton, statements_block module opened (by decide), written_singleton,
    statements_block (by decide) (by decide) (by decide), clientMembers,
    definitions_members (by decide) first, readers, List.map_id, spelled]

theorem accessorNames_clientSource :
    accessorNames gem.clientSource.layout = gem.resourceNames := by
  rw [accessorNames, statements_layout (by decide) (unbroken_clientSource unbroken),
    definitions_clientSource unbroken, behindInitialize_cons]

/-- Every method of the client has one line, which gives a value to a variable. -/
theorem assignments_clientSource : statements 3 "@" (written 0 gem.clientSource) =
    "configuration = configuration" :: gem.resourceNames.map fun name =>
      name ++ " ||= Resources::" ++ className name ++ ".new(self)" := by
  have module : '\n' ∉ ("module " ++ gem.moduleName).toList := by simp [unbroken.module]
  have opened : statement? 3 "@" (indent 0 ("module " ++ gem.moduleName)) = none :=
    statement?_of_apart (by decide) (by decide) _
  have preambled : statements 3 "@" (written 0 preamble) = [] := by decide
  have reader : statements 3 "@" (written 2 [.line "attr_reader :configuration", .blank]) = [] := by
    decide
  have initial : statements 3 "@" ((method ("initialize(configuration = " ++ gem.moduleName ++
      ".configuration)") ["@" ++ "configuration = configuration"]).written 2) =
        ["configuration = configuration"] :=
    assignments_method (by simp [unbroken.module])
  have readers : statements 3 "@" (written 2 (gem.resourceNames.map resourceReader)) =
      gem.resourceNames.map fun name =>
        name ++ " ||= Resources::" ++ className name ++ ".new(self)" := by
    apply statements_map
    intro name member
    have spelled : "@" ++ name ++ " ||= Resources::" ++ className name ++ ".new(self)" =
        "@" ++ (name ++ " ||= Resources::" ++ className name ++ ".new(self)") := by
      simp only [String.append_assoc]
    rw [resourceReader, spelled]
    exact assignments_method (unbroken.resources name member)
  have members : gem.clientMembers = [.line "attr_reader :configuration", .blank] ++
      [method ("initialize(configuration = " ++ gem.moduleName ++ ".configuration)")
        ["@" ++ "configuration = configuration"]] ++
      eachAfterBlank (gem.resourceNames.map resourceReader) := rfl
  rw [clientSource_eq, written_append, statements_append, preambled, List.nil_append,
    written_singleton, statements_block module opened (by decide), written_singleton,
    statements_block (by decide) (by decide) (by decide), members, written_append,
    statements_append, written_append, statements_append, reader, written_singleton, initial,
    written_eachAfterBlank, readers]
  rfl

theorem accessors_clientSource : accessors gem.clientSource.layout =
    gem.resourceNames.map fun name => (name, some (className name)) := by
  rw [accessors, accessorNames_clientSource unbroken,
    statements_layout (by decide) (unbroken_clientSource unbroken),
    assignments_clientSource unbroken, List.drop_one, List.tail_cons, List.zipWith_map_right,
    List.zipWith_self]
  simp only [instantiated?_reader]

end Client

section Resource

variable {entry : String × Resource} (member : entry ∈ gem.resources)
include member

theorem unbroken_endpointMethod {endpoint : Endpoint} (inEndpoints : endpoint ∈ entry.2.endpoints) :
    (endpointMethod gem.moduleName (entry.2.format gem.api.responseFormat) endpoint).Unbroken := by
  have module := unbroken.module
  have interpolated := PathTemplate.newline_not_mem_interpolate
    (unbroken.endpoints entry member endpoint inEndpoints).2
  have called := newline_not_mem_requestCall endpoint
  have unwrapped := newline_not_mem_unwrapExpression module (unbroken.keys entry member)
    endpoint.isCollection
  simp [endpointMethod, Item.Unbroken, Unbroken, module, interpolated, called, unwrapped]

theorem unbroken_resourceSource : Unbroken (gem.resourceSource entry.1 entry.2) := by
  have methods : Unbroken (eachAfterBlank (entry.2.endpoints.map
      (endpointMethod gem.moduleName (entry.2.format gem.api.responseFormat)))) :=
    unbroken_eachAfterBlank.mpr
      (unbroken_map fun _ inEndpoints => unbroken_endpointMethod unbroken member inEndpoints)
  have members : Unbroken (gem.resourceMembers entry.2) :=
    unbroken_append.mpr ⟨by simp [Unbroken, Item.Unbroken, method], methods⟩
  exact unbroken_append.mpr ⟨by simp [preamble, Unbroken, Item.Unbroken],
    ⟨⟨⟨members, trivial⟩, trivial⟩, trivial⟩⟩

theorem newline_not_mem_classHeader : '\n' ∉ ("class " ++ className entry.1).toList := by
  have inName := unbroken.resources entry.1 (List.mem_map_of_mem member)
  simp [newline_not_mem_className inName]

theorem definitions_resourceSource :
    statements 3 "def " (written 0 (gem.resourceSource entry.1 entry.2)) =
      "initialize(client)" :: entry.2.endpoints.map fun endpoint =>
        applied endpoint.name (declarations endpoint) := by
  have module : '\n' ∉ ("module " ++ gem.moduleName).toList := by simp [unbroken.module]
  have header := newline_not_mem_classHeader unbroken member
  have preambled : statements 3 "def " (written 0 preamble) = [] := by decide
  have methods : statements 3 "def " (written 3 (entry.2.endpoints.map
      (endpointMethod gem.moduleName (entry.2.format gem.api.responseFormat)))) =
        entry.2.endpoints.map fun endpoint => applied endpoint.name (declarations endpoint) := by
    apply statements_map
    intro endpoint inEndpoints
    obtain ⟨inName, inPath⟩ := unbroken.endpoints entry member endpoint inEndpoints
    have signed : '\n' ∉ (applied endpoint.name (declarations endpoint)).toList := by
      have whole := newline_not_mem_signature inName inPath
      simpa [signature] using whole
    exact definitions_block signed _
  rw [resourceSource_eq, written_append, statements_append, preambled, List.nil_append,
    written_singleton, statements_block module (statement?_of_apart (by decide) (by decide) _)
      (by decide), written_singleton, statements_block (by decide) (by decide) (by decide),
    written_singleton, statements_block header (statement?_of_apart (by decide) (by decide) _)
      (by decide), resourceMembers, definitions_members (by decide) (by decide), methods]

theorem methodSignatures_resourceSource :
    methodSignatures (gem.resourceSource entry.1 entry.2).layout =
      entry.2.endpoints.map signature := by
  rw [methodSignatures, statements_layout (by decide) (unbroken_resourceSource unbroken member),
    definitions_resourceSource unbroken member,
    show "initialize(client)" = "initialize(" ++ "client)" by decide, behindInitialize_cons,
    List.map_map]
  rfl

theorem declaredClasses_resourceSource :
    declaredClasses (gem.resourceSource entry.1 entry.2).layout = [className entry.1] := by
  have module : '\n' ∉ ("module " ++ gem.moduleName).toList := by simp [unbroken.module]
  have header := newline_not_mem_classHeader unbroken member
  have preambled : statements 2 "class " (written 0 preamble) = [] := by decide
  have inClass : statements 2 "class " (written 3 (gem.resourceMembers entry.2)) = [] :=
    statements_deeper rfl (by decide) (by decide) _
  have closed : statement? 2 "class " (indent 2 "end") = none := by decide
  rw [declaredClasses, statements_layout (by decide) (unbroken_resourceSource unbroken member),
    resourceSource_eq, written_append, statements_append, preambled, List.nil_append,
    written_singleton, statements_block module (statement?_of_apart (by decide) (by decide) _)
      (by decide), written_singleton, statements_block (by decide) (by decide) (by decide),
    written_singleton, written_block header, statements_cons_some (statement?_indent (by decide) _),
    statements_append, inClass, statements_cons_none closed]
  rfl

end Resource

section Others

theorem requiredResources_entrySource :
    requiredResources gem.fileStem gem.entrySource.layout = gem.resourceNames := by
  have base : ∀ file ∈ baseFiles, between? (gem.fileStem ++ "/resources/").toList []
      (gem.fileStem ++ "/" ++ file).toList = none := by
    intro file member
    have other : ∀ file ∈ baseFiles, ¬"/resources/".toList <+: ("/" ++ file).toList := by decide
    apply between?_eq_none
    rw [String.append_assoc, prefix_behind_iff]
    exact other file member
  have resources (name : String) : between? (gem.fileStem ++ "/resources/").toList []
      (gem.fileStem ++ "/resources/" ++ name).toList = some name :=
    between?_appended (gem.fileStem ++ "/resources/") name
  have noBase := List.filterMap_eq_nil_iff.mpr base
  rw [requiredResources, requireTargets_entrySource unbroken.api unbroken.resources,
    List.filterMap_append, List.filterMap_map, List.filterMap_map]
  simp only [Function.comp_def, resources, noBase, List.nil_append]
  exact List.filterMap_some

theorem unbroken_clientAssertions : ∀ text ∈ gem.clientAssertions, '\n' ∉ text.toList := by
  have names : ∀ text ∈ gem.resourceNames.map ("assert_respond_to client, :" ++ ·),
      '\n' ∉ text.toList :=
    List.forall_mem_map.mpr fun name member => by simp [unbroken.resources name member]
  have module := unbroken.module
  rw [clientAssertions, List.forall_mem_append]
  exact ⟨by simp [module], names⟩

theorem testSuite_respondsTo : ∃ lines rest,
    gem.testSuiteSource.layout =
        String.ofList (laid lines) ++ ("  def test_client_initialization" ++ "\n") ++ rest ∧
      nonblank lines = nonblank gem.linesBeforeClientTest ∧
      respondsTo rest = gem.resourceNames := by
  have header : '\n' ∉ ("class " ++ gem.moduleName ++ "Test < Minitest::Test").toList := by
    simp [unbroken.module]
  have inside : ∀ line ∈ gem.clientAssertions.map (indent 2), '\n' ∉ line.toList :=
    List.forall_mem_map.mpr fun text member =>
      unbroken_indent 2 (unbroken_clientAssertions unbroken text member)
  have noEnd : "  end" ∉ gem.clientAssertions.map (indent 2) := by
    intro member
    obtain ⟨text, -, same⟩ := List.mem_map.mp member
    have deeper : statement? 1 "end" (indent 2 text) = none :=
      statement?_deeper rfl (by decide) (by decide) text
    rw [same] at deeper
    exact absurd deeper (by decide)
  obtain ⟨lines, rest, text, before, part⟩ :=
    layout_part (gem.written_testSuiteSource header) (by decide) (by decide) (by decide) inside
      noEnd
  refine ⟨lines, rest, text, before, ?_⟩
  have skips : statement? 2 "assert_respond_to client, :" "" = none := by decide
  rw [respondsTo, statements, ← filterMap_nonblank skips, part, filterMap_nonblank skips]
  exact statements_clientAssertions gem

end Others

omit unbroken

/-- The texts of a gem name its resources in one order, by the same classes, with the methods of all
endpoints. -/
structure ReferencesAgree (gem : Gem) : Prop where
  readers : accessorNames gem.clientSource.layout = gem.resourceNames
  required : requiredResources gem.fileStem gem.entrySource.layout = gem.resourceNames
  /-- The table of contents stands behind the header of the reference. -/
  linked : ∃ rest, gem.reference = gem.referenceHeader ++ "\n\n" ++ rest ∧
    contentsLinks rest = gem.resourceNames
  /-- Blank lines apart, the test of the client stands behind those before it. -/
  tested : ∃ lines rest, gem.testSuiteSource.layout = String.ofList (laid lines) ++
      ("  def test_client_initialization" ++ "\n") ++ rest ∧
    nonblank lines = nonblank gem.linesBeforeClientTest ∧ respondsTo rest = gem.resourceNames
  instantiated : accessors gem.clientSource.layout =
    gem.resourceNames.map fun name => (name, some (className name))
  declared : ∀ entry ∈ gem.resources,
    declaredClasses (gem.resourceSource entry.1 entry.2).layout = [className entry.1]
  methods : ∀ entry ∈ gem.resources,
    methodSignatures (gem.resourceSource entry.1 entry.2).layout =
      entry.2.endpoints.map signature

theorem referencesAgree (unbroken : gem.NamesUnbroken) : gem.ReferencesAgree where
  readers := accessorNames_clientSource unbroken
  required := requiredResources_entrySource unbroken
  linked := reference_contents unbroken.resources
  tested := testSuite_respondsTo unbroken
  instantiated := accessors_clientSource unbroken
  declared _ member := declaredClasses_resourceSource unbroken member
  methods _ member := methodSignatures_resourceSource unbroken member

/-- All files speak of the same resources in the same order; only the paths of the files do not,
when the name of the API is absolute. -/
theorem references_agree {files : List File} (accepted : gem.render = .ok files)
    (unbroken : gem.NamesUnbroken) :
    (sourceFile (gem.libraryPath "client") gem.clientSource ∈ files ∧
      sourceFile gem.entryPath gem.entrySource ∈ files ∧
      (∀ entry ∈ gem.resources,
        sourceFile (gem.resourcePath entry.1) (gem.resourceSource entry.1 entry.2) ∈ files) ∧
      ⟨⟨"docs/api.md"⟩, gem.reference⟩ ∈ files ∧
      sourceFile gem.testPath gem.testSuiteSource ∈ files) ∧
    gem.ReferencesAgree ∧
    (sourceNames gem.resourceDirectory (files.map File.path) = gem.resourceNames ↔
      gem.fileStem.toList.head? ≠ some '/' ∨ gem.resourceNames = []) := by
  obtain rfl := files_of_render accepted
  exact ⟨⟨gem.clientFile_mem, gem.entryFile_mem, fun _ member => gem.resourceFile_mem member,
    gem.referenceFile_mem, gem.testFile_mem⟩, referencesAgree unbroken, sourceNames_paths_iff⟩

def campus : Gem where
  api.nameSetting := some "campus/"
  api.resources :=
    ((ResourceTable.empty.insert "initialize(x)"
      { endpoints := [{ name := "find", pathSetting := some "/rooms/{id}" }] }).insert
      "](#rooms"
      { endpoints := [{ name := "def list", params := true }, { name := "list" }] }).insert
      "authentication" { endpoints := [] }

theorem references_agree_campus : campus.render = .ok campus.files ∧ campus.ReferencesAgree ∧
    sourceNames campus.resourceDirectory (campus.files.map File.path) =
      ["initialize(x)", "](#rooms", "authentication"] := by
  have complete : campus.missingName? = none := by decide +kernel
  have accepted : campus.render = .ok campus.files := render_of_complete complete
  have unbroken : campus.NamesUnbroken := {
    api := by decide
    resources := by decide
    endpoints := by decide
    keys := by decide }
  obtain ⟨-, agree, paths⟩ := references_agree accepted unbroken
  exact ⟨accepted, agree, paths.mpr (.inl (by decide))⟩

/-- A name that begins with a slash takes the files of the resources out of the library. -/
theorem exists_resource_elsewhere : ∃ gem : Gem, gem.render = .ok gem.files ∧ gem.NamesUnbroken ∧
    gem.resourceNames = ["users"] ∧
    sourceNames gem.resourceDirectory (gem.files.map File.path) = [] := by
  let outside : Gem :=
    { api :=
        { nameSetting := some "/abs"
          resources := ResourceTable.empty.insert "users" { endpoints := [{ name := "list" }] } } }
  have complete : outside.missingName? = none := by decide +kernel
  have unbroken : outside.NamesUnbroken := {
    api := by decide
    resources := by decide
    endpoints := by decide
    keys := by decide }
  exact ⟨outside, render_of_complete complete, unbroken, by decide,
    sourceNames_of_absolute (by decide)⟩

end ClientGem.Gem
