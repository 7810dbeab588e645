import ClientGem.Proofs.Gem.OneLine
import ClientGem.Proofs.Gem.Paths
import ClientGem.Proofs.Ruby.Passage

/-!
Where the files of a gem speak of an endpoint: its section of the reference, its entry in the
introduction, its test in the suite and its method in the file of its resource. Each of them is a
passage of its file.
-/

namespace ClientGem.Gem

open Api Output Ruby Source

def filesAbout (gem : Gem) (name : String) (resource : Resource) : List File :=
  [ ⟨⟨"docs/api.md"⟩, gem.reference⟩,
    ⟨⟨"README.md"⟩, gem.readme⟩,
    ⟨gem.testPath, gem.testSuiteSource.layout⟩,
    ⟨gem.resourcePath name, (gem.resourceSource name resource).layout⟩ ]

def stubLines (gem : Gem) (format : ResponseFormat) (endpoint : Endpoint) : List String :=
  [ "response_body = " ++ sampleBody endpoint.isCollection format,
    "stub_request(:" ++ endpoint.verb.name ++ ", " ++
      stringLiteral (gem.testAddress endpoint) ++ ")" ] ++
  (if endpoint.params then ["  .with(query: \x7b \"page\" => \"1\" \x7d)"] else []) ++
  ["  .to_return(status: 200, body: response_body.to_json,"]

/-- The lines of the test of an endpoint, from its header to the call of the method. -/
def testLines (gem : Gem) (name : String) (format : ResponseFormat) (endpoint : Endpoint)
    (call : String) : List String :=
  ("  def " ++ endpointTestName name endpoint) ::
    ((gem.stubLines format endpoint ++
      ["             headers: \x7b \"Content-Type\" => \"application/json\" \x7d)"]).map
        ("    " ++ ·) ++
    "" :: ["client = " ++ gem.moduleName ++ ".client", "result = " ++ call].map ("    " ++ ·))

def methodLines (gem : Gem) (header path : String) : List String :=
  (Text.lines header).map (indent 3) ++
    ["        request = " ++ gem.moduleName ++ "::Request.new(\"" ++ path ++ "\", @config)"]

/-- The section of an endpoint in the reference, up to the call that it shows. -/
def referenceLines (endpoint : Endpoint) (address call : String) : List String :=
  [ "#### " ++ endpoint.name,
    "",
    "**" ++ endpoint.verb.upperName ++ "** `" ++ address ++ "`",
    "",
    endpoint.description.getD noDescription,
    "",
    "**Parameters**",
    "" ] ++
  parameterLines endpoint ++ ["", "**Example Usage**", "", "```ruby", call, "```"]

def overviewLines (endpoint : Endpoint) (call : String) : List String :=
  [ "#### `" ++ endpoint.name ++ "`",
    "",
    "- HTTP Method: `" ++ endpoint.verb.upperName ++ "`",
    "- Path: `" ++ endpoint.path ++ "`" ] ++
  (if (PathTemplate.params endpoint.path).isEmpty then []
    else ["- Path Parameters: " ++ ", ".intercalate
      ((PathTemplate.params endpoint.path).map fun param => "`" ++ param ++ "`")]) ++
  (if endpoint.params then ["- Accepts additional query parameters"] else []) ++
  ["", "```ruby", call, "```"]

theorem visible_testLines (gem : Gem) (name : String) (format : ResponseFormat)
    (endpoint : Endpoint) (call : String) : Visible (gem.testLines name format endpoint call) := by
  refine ⟨"    " ++ ("result = " ++ call), ?_, by simp⟩
  rw [testLines, List.getLast?_cons, List.getLast?_append]
  rfl

theorem visible_methodLines (gem : Gem) (header path : String) :
    Visible (gem.methodLines header path) :=
  ⟨_, List.getLast?_concat, by simp⟩

theorem shows_endpointMethod (gem : Gem) (format : ResponseFormat) (endpoint : Endpoint) :
    Shows 3 [endpointMethod gem.moduleName format endpoint]
      (gem.methodLines (signature endpoint) (PathTemplate.interpolate endpoint.path)) := by
  let request := "request = " ++ gem.moduleName ++ "::Request.new(\"" ++
    PathTemplate.interpolate endpoint.path ++ "\", @config)"
  have laid : indent 4 request = "        request = " ++ gem.moduleName ++ "::Request.new(\"" ++
      PathTemplate.interpolate endpoint.path ++ "\", @config)" := by
    apply String.toList_inj.mp
    rw [toList_indent (by simp [request])]
    simp [request]
  have method : endpointMethod gem.moduleName format endpoint =
      .block (signature endpoint) ([.line request] ++
        [.line ("response = " ++ requestCall endpoint), .blank,
          .line (unwrapExpression gem.moduleName endpoint.isCollection format)]) := rfl
  rw [method]
  apply shows_block (visible_methodLines gem _ _)
  intro done
  rw [addItems, addItems, addItem, laid, addPieces_eq, methodLines, List.reverse_append,
    List.reverse_singleton, List.singleton_append, List.cons_append]

theorem indent_two {text : String} (visible : text ≠ "") : indent 2 text = "    " ++ text := by
  apply String.toList_inj.mp
  rw [toList_indent visible, String.toList_append]
  rfl

theorem addItems_test {texts : List String} {last client result : String}
    (visible : ∀ text ∈ [last, client, result] ++ texts, text ≠ "") (done : List String) :
    addItems 2 ((texts ++ [last]).map .line ++ [.blank, .line client, .line result]) done =
      ((texts ++ [last]).map ("    " ++ ·) ++ "" :: [client, result].map ("    " ++ ·)).reverse ++
        done := by
  have laid : texts.map (indent 2) = texts.map ("    " ++ ·) :=
    List.map_congr_left fun text member =>
      indent_two (visible text (List.mem_append_right _ member))
  have lastVisible : indent 2 last ≠ "" := by
    rw [indent_two (visible last (by simp))]
    simp
  rw [addItems_append, addItems_map_line, List.map_append, List.reverse_append, List.map_singleton,
    List.reverse_singleton, List.singleton_append, List.cons_append]
  simp only [addItems, addItem]
  rw [addBlank_of_visible lastVisible, laid, indent_two (visible last (by simp)),
    indent_two (visible client (by simp)), indent_two (visible result (by simp))]
  simp

theorem endpointTest_eq (gem : Gem) (name : String) (format : ResponseFormat)
    (endpoint : Endpoint) : gem.endpointTest name format endpoint =
      .block ("def " ++ endpointTestName name endpoint)
        ((((stubLines gem format endpoint ++ [returnedHeaders]).map .line ++
          [.blank, .line ("client = " ++ gem.moduleName ++ ".client"),
            .line ("result = " ++ callOf name endpoint testArgument)])) ++
          (.blank :: (resultAssertions gem.moduleName endpoint.isCollection).map .line)) := by
  have query : "  .with(query: " ++ braced "\"page\" => \"1\"" ++ ")" =
      "  .with(query: \x7b \"page\" => \"1\" \x7d)" := by decide +kernel
  unfold endpointTest stubLines
  rw [query]
  cases endpoint.params <;> rfl

theorem shows_endpointTest (gem : Gem) (name : String) (format : ResponseFormat)
    (endpoint : Endpoint) : Shows 1 [gem.endpointTest name format endpoint]
      (gem.testLines name format endpoint (callOf name endpoint testArgument)) := by
  have headers : returnedHeaders =
      "             headers: \x7b \"Content-Type\" => \"application/json\" \x7d)" := by
    decide +kernel
  have visible : ∀ text ∈ [returnedHeaders, "client = " ++ gem.moduleName ++ ".client",
      "result = " ++ callOf name endpoint testArgument] ++ stubLines gem format endpoint,
      text ≠ "" := by
    rw [headers, stubLines]
    split <;> simp
  have unbroken : '\n' ∉ ("def " ++ endpointTestName name endpoint).toList := by
    simp [newline_not_mem_endpointTestName]
  have header : indent 1 ("def " ++ endpointTestName name endpoint) =
      "  def " ++ endpointTestName name endpoint := by
    apply String.toList_inj.mp
    rw [toList_indent (by simp)]
    simp
  rw [endpointTest_eq]
  apply shows_block (visible_testLines ..)
  intro done
  rw [addItems_test visible, addPieces_eq, Text.lines_of_unbroken unbroken, List.map_singleton,
    header, headers, testLines]
  simp

theorem infix_flatMap_of_mem {α β : Type} {x : α} {xs : List α} (member : x ∈ xs)
    (f : α → List β) : f x <:+: xs.flatMap f :=
  List.infix_of_mem_flatten (List.mem_map_of_mem member)

variable {gem : Gem} {name : String} {resource : Resource} {endpoint : Endpoint}

theorem filesAbout_subset (named : (name, resource) ∈ gem.resources) {files : List File}
    (accepted : gem.render = .ok files) : gem.filesAbout name resource ⊆ files := by
  obtain rfl := files_of_render accepted
  have ofResource := gem.resourceFile_mem named
  rw [filesAbout, List.cons_subset, List.cons_subset, List.cons_subset, List.cons_subset]
  exact ⟨gem.referenceFile_mem, gem.readmeFile_mem, gem.testFile_mem, ofResource,
    List.nil_subset _⟩

/-- The introduction shows calls in three of its sections. -/
theorem readme_hasLines {whole lines : List String} (ne_nil : whole ≠ [])
    (inReadme : joinLines whole ∈ [gem.usage, gem.overview, gem.errorGuide])
    (inside : lines <:+: whole) : HasLines gem.readme lines := by
  have inSections : joinLines whole ∈
      [gem.introduction, gem.installation, gem.configurationGuide] ++
        ([gem.usage, gem.overview, gem.errorGuide] ++ [referenceGuide, gem.cacheGuide]) :=
    List.mem_append_right _ (List.mem_append_left _ inReadme)
  exact HasLines.of_section inSections (HasLines.of_infix inside (hasLines_joined ne_nil))

section Listed

variable (named : (name, resource) ∈ gem.resources) (member : endpoint ∈ resource.endpoints)
include named member

theorem reference_hasLines {whole lines : List String} (ne_nil : whole ≠ [])
    (spelled : gem.endpointReference name endpoint = joinLines whole) (inside : lines <:+: whole) :
    HasLines gem.reference lines := by
  have inReference : resourceReference gem name resource ∈
      [gem.referenceHeader, gem.referenceContents, gem.referenceAuthentication, "## Resources"] ++
        gem.resources.map fun entry => resourceReference gem entry.1 entry.2 :=
    List.mem_append_right _ (List.mem_map.mpr ⟨_, named, rfl⟩)
  have full : resource.endpoints.isEmpty = false := by
    rw [List.isEmpty_eq_false_iff]
    exact List.ne_nil_of_mem member
  refine HasLines.of_section inReference ?_
  rw [resourceReference, full]
  refine HasLines.of_section (List.mem_cons_of_mem _ (List.mem_map_of_mem member)) ?_
  rw [spelled]
  exact HasLines.of_infix inside (hasLines_joined ne_nil)

theorem reference_hasLines_call : HasLines gem.reference
    (referenceLines endpoint (gem.address endpoint.path)
      (callOf name endpoint Parameter.name)) := by
  have spelled : gem.endpointReference name endpoint = joinLines
      (referenceLines endpoint (gem.address endpoint.path) (callOf name endpoint Parameter.name) ++
        (["", "**Response**", "", "```ruby"] ++
          resultExample endpoint.name endpoint.isCollection (singular name) ++ ["```"])) := by
    simp [referenceLines, endpointReference]
  exact reference_hasLines named member (by simp [referenceLines]) spelled
    (List.prefix_append _ _).isInfix

theorem readme_hasLines_overview : HasLines gem.readme
    (overviewLines endpoint (exampleCall name endpoint)) := by
  have spelled : endpointOverview name endpoint =
      [""] ++ overviewLines endpoint (exampleCall name endpoint) := rfl
  have inEntry : overviewLines endpoint (exampleCall name endpoint) <:+:
      endpointOverview name endpoint := spelled ▸ (List.suffix_append _ _).isInfix
  have ofResource := infix_flatMap_of_mem named fun entry =>
    ["", "### " ++ className entry.1] ++ entry.2.endpoints.flatMap (endpointOverview entry.1)
  have ofEndpoint := infix_flatMap_of_mem member (endpointOverview name)
  exact readme_hasLines (by simp) (.tail _ (.head _))
    (((inEntry.trans ofEndpoint).trans (List.suffix_append _ _).isInfix).trans
      (ofResource.trans (List.suffix_append _ _).isInfix))

theorem mem_endpointTests :
    gem.endpointTest name (resource.format gem.api.responseFormat) endpoint ∈ gem.endpointTests :=
  List.mem_flatMap.mpr ⟨_, named, List.mem_map_of_mem member⟩

theorem testSuite_hasLines : HasLines gem.testSuiteSource.layout
    (gem.testLines name (resource.format gem.api.responseFormat) endpoint
      (callOf name endpoint testArgument)) := by
  have inTests := mem_endpointTests named member
  have visible := visible_testLines gem name (resource.format gem.api.responseFormat) endpoint
    (callOf name endpoint testArgument)
  have shows := shows_endpointTest gem name (resource.format gem.api.responseFormat) endpoint
  have inClass := shows.of_mem visible (List.mem_append_right
    [gem.setupTest, .blank, gem.configurationTest, .blank, gem.clientTest, .blank, gem.errorTest,
      .blank, gem.errorResponseTest] (mem_eachAfterBlank inTests))
  have inSuite := inClass.block visible ("class " ++ gem.moduleName ++ "Test < Minitest::Test")
  exact hasLines_layout visible (inSuite.of_mem visible (List.mem_append_right preamble
    (.tail (Item.line "require \"test_helper\"") (.tail Item.blank (.head [])))))

end Listed

theorem resourceSource_hasLines (gem : Gem) (name : String)
    (member : endpoint ∈ resource.endpoints) :
    HasLines (gem.resourceSource name resource).layout
      (gem.methodLines (signature endpoint) (PathTemplate.interpolate endpoint.path)) := by
  have visible := visible_methodLines gem (signature endpoint)
    (PathTemplate.interpolate endpoint.path)
  have inMethods : endpointMethod gem.moduleName (resource.format gem.api.responseFormat) endpoint ∈
      eachAfterBlank (resource.endpoints.map
        (endpointMethod gem.moduleName (resource.format gem.api.responseFormat))) :=
    mem_eachAfterBlank (List.mem_map_of_mem member)
  have shows := shows_endpointMethod gem (resource.format gem.api.responseFormat) endpoint
  have inClass := shows.of_mem visible (List.mem_append_right
    [.line "attr_reader :client", .blank, Ruby.method "initialize(client)"
      ["@client = client", "@config = client.configuration"]] inMethods)
  have inModules := ((inClass.block visible ("class " ++ className name)).block visible
    "module Resources").block visible ("module " ++ gem.moduleName)
  exact hasLines_layout visible
    (inModules.of_mem visible (List.mem_append_right preamble (List.mem_singleton_self _)))

section First

variable (first : resource.endpoints.head? = some endpoint)
include first

theorem readme_hasLines_usage (named : (name, resource) ∈ gem.resources) : HasLines gem.readme
    ["", "# " ++ className name ++ " - " ++ endpoint.name,
      "response = " ++ exampleCall name endpoint] := by
  obtain ⟨others, listed⟩ := List.head?_eq_some_iff.mp first
  have shown : usageExample name resource =
      ["", "# " ++ className name ++ " - " ++ endpoint.name,
        "response = " ++ exampleCall name endpoint] := by
    rw [usageExample, listed]
  have inExamples := infix_flatMap_of_mem named fun entry => usageExample entry.1 entry.2
  rw [← shown]
  exact readme_hasLines (by simp) (.head _)
    ((inExamples.trans (List.suffix_append _ _).isInfix).trans (List.prefix_append _ _).isInfix)

variable {skipped later : List (String × Resource)}
  (split : gem.resources = skipped ++ (name, resource) :: later)
  (empty : ∀ entry ∈ skipped, entry.2.endpoints = [])
include split empty

theorem firstCall_eq : gem.firstCall = exampleCall name endpoint := by
  have none : (skipped.findSome? fun entry =>
      entry.2.endpoints.head?.map (exampleCall entry.1)) = none := by
    rw [List.findSome?_eq_none_iff]
    rintro ⟨other, without⟩ member
    have none : without.endpoints = [] := empty _ member
    simp [none]
  rw [firstCall, split, List.findSome?_append, none, List.findSome?_cons]
  simp [first]

theorem readme_hasLines_errorGuide : HasLines gem.readme
    ["begin", "  response = " ++ exampleCall name endpoint,
      "rescue " ++ gem.moduleName ++ "::Error => e"] := by
  have call := firstCall_eq first split empty
  refine readme_hasLines (List.cons_ne_nil _ _) (.tail _ (.tail _ (.head _))) ?_
  rw [call]
  exact ⟨["## Error Handling", "", "```ruby"], _, rfl⟩

end First

end ClientGem.Gem
