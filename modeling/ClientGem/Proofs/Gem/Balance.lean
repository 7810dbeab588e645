import ClientGem.Proofs.Gem.LibraryBalance
import ClientGem.Proofs.Gem.MissingNames

/-!
The blocks of the generated tests, and so of every file of source, are closed where they were
opened.
-/

namespace ClientGem.Gem

open Api Output Ruby Source

theorem not_isBlank {c : Char} (word : isWordChar c = true) : Unicode.isBlank c = false := by
  rw [Bool.eq_false_iff]
  intro blank
  have ranges : c.toNat ≤ 32 ∨ 128 ≤ c.toNat := by
    simp only [Unicode.isBlank, Unicode.blankRanges, Unicode.Ranges.contains, List.any_cons,
      List.any_nil, Bool.or_false, Bool.or_eq_true, Bool.and_eq_true, decide_eq_true_eq] at blank
    omega
  have visible : 32 < c.toNat ∧ c.toNat < 128 := by
    rcases (by simpa [isWordChar, Char.isAlphanum, or_assoc] using word :
      c.isAlpha = true ∨ c.isDigit = true ∨ c = '_') with letter | digit | rfl
    · have bounds := bounds_of_isAlpha letter
      exact show 32 < c.val.toNat ∧ c.val.toNat < 128 by omega
    · rw [Char.isDigit, Bool.and_eq_true] at digit
      have bounds : 48 ≤ c.val.toNat ∧ c.val.toNat ≤ 57 :=
        ⟨of_decide_eq_true digit.1, of_decide_eq_true digit.2⟩
      exact show 32 < c.val.toNat ∧ c.val.toNat < 128 by omega
    · decide
  omega

theorem not_isBlankText {name : String} (plain : isPlainSymbol name = true) :
    Unicode.isBlankText name = false := by
  obtain ⟨ne_nil, each⟩ := Token.wordChars_of_isPlainSymbol plain
  obtain ⟨c, rest, begins⟩ := List.exists_cons_of_ne_nil ne_nil
  rw [begins] at each
  rw [Unicode.isBlankText, begins, List.all_cons, not_isBlank (each c List.mem_cons_self),
    Bool.false_and]

theorem isPlain_testCall {resource : String} {endpoint : Endpoint}
    (inResource : '\n' ∉ resource.toList) (plainName : isPlainSymbol endpoint.name = true) :
    IsPlain ("result = " ++ callOf resource endpoint testArgument) := by
  have inName := newline_not_mem_of_isPlainSymbol plainName
  have arguments : ∀ argument ∈ (parameters endpoint).map testArgument, '\n' ∉ argument.toList := by
    intro argument member
    obtain ⟨parameter, -, rfl⟩ := List.mem_map.mp member
    cases parameter with
    | path name =>
      show '\n' ∉ (stringLiteral sampleValue).toList
      decide
    | query => decide
    | body => decide
  have spelled : ("client." ++ resource ++ "." ++ endpoint.name).toList =
      ("client." ++ resource).toList ++ '.' :: endpoint.name.toList := by
    simp
  have called : '\n' ∉ (callOf resource endpoint testArgument).toList :=
    newline_not_mem_applied (by simp [inResource, inName]) arguments
  exact isPlain_of_begins "result" (by simp) (by decide)
    (endsInDo_applied _ _ spelled (Token.wordChars_of_isPlainSymbol plainName).2)
    (by simp [called])

theorem endsPlain_sampleBody (isCollection : Bool) (format : ResponseFormat) :
    endsPlain (sampleBody isCollection format) = true := by
  unfold sampleBody sampleItem
  split
  · exact endsPlain_braced _
  · split <;> exact endsPlain_braced _

section Names

variable {gem : Gem} (named : gem.PlainlyNamed)
include named

theorem balanced_testHelperSource : Balanced gem.testHelperSource := by
  have inStem := named.stem
  refine balanced_preamble.append (.after (by decide) (.afterLine ?_
    (balanced_of_isBalanced (by decide))))
  exact isPlain_around (by decide) (by decide) (by simp [inStem])

theorem balanced_setupTest : Balanced [gem.setupTest] := by
  have module := named.module
  have baseUrl : '\n' ∉ gem.api.baseUrl.toList := named.settings _ (by simp)
  refine balanced_block (by decide) (.afterLine ?reset
    (balanced_block named.isHeader_configure (.afterLine ?address ?token)))
  case reset =>
    exact named.isPlain_module (by simp) (endsInDo_of_endsPlain (by decide)) (by simp [module])
  case address => exact isPlain_behind (by decide) (endsPlain_stringLiteral _) (by simp [baseUrl])
  case token => split <;> exact balanced_of_isBalanced (by decide)

theorem PlainlyNamed.isPlain_credentialTestSettings :
    ∀ text ∈ credentialTestSettings gem.api, IsPlain text := by
  have tokenUrl : '\n' ∉ gem.api.tokenUrl.toList := named.settings _ (by simp)
  have header : '\n' ∉ gem.api.apiKeyHeader.toList := named.settings _ (by simp)
  unfold credentialTestSettings
  split
  · exact nofun
  · decide
  · refine List.forall_mem_cons.mpr ⟨by decide, List.forall_mem_singleton.mpr ?_⟩
    exact isPlain_behind (by decide) (endsPlain_stringLiteral _) (by simp [header])
  · refine List.forall_mem_cons.mpr ⟨by decide, List.forall_mem_cons.mpr ⟨by decide,
      List.forall_mem_singleton.mpr ?_⟩⟩
    exact isPlain_behind (by decide) (endsPlain_stringLiteral _) (by simp [tokenUrl])

theorem PlainlyNamed.isPlain_credentialAssertions :
    ∀ text ∈ credentialAssertions gem.moduleName gem.api, IsPlain text := by
  have module := named.module
  have fixed : ∀ mode, ∀ checked ∈ checkedCredentials mode,
      '\n' ∉ checked.1.toList ∧ endsPlain checked.2 = true ∧ '\n' ∉ checked.2.toList := by
    intro mode
    cases mode <;> decide
  intro text member
  obtain ⟨⟨value, setting⟩, inChecked, rfl⟩ := List.mem_map.mp member
  obtain ⟨inValue, ends, inSetting⟩ := fixed _ _ inChecked
  exact isPlain_of_ends "assert" (by simp) (by decide) ends (by simp [module, inValue, inSetting])

theorem balanced_configurationTest : Balanced [gem.configurationTest] := by
  have module := named.module
  refine balanced_block (by decide) ((balanced_block named.isHeader_configure ?settings).cons
    (.afterBlank (.afterLine ?address (.afterLine ?timeout
      (balanced_lines named.isPlain_credentialAssertions)))))
  case settings =>
    exact .after (by decide) (.after (by decide)
      (balanced_lines named.isPlain_credentialTestSettings))
  case address => exact isPlain_around (by decide) (by decide) (by simp [module])
  case timeout => exact isPlain_around (by decide) (by decide) (by simp [module])

theorem balanced_clientTest : Balanced [gem.clientTest] := by
  have module := named.module
  refine balanced_block (by decide) (Balanced.append (.afterLine ?client (.afterBlank
    (.afterLine ?kind (balanced_line ?configuration)))) (balanced_of_forall ?readers))
  case client => exact isPlain_around (by decide) (by decide) (by simp [module])
  case kind => exact isPlain_around (by decide) (by decide) (by simp [module])
  case configuration => exact isPlain_around (by decide) (by decide) (by simp [module])
  case readers =>
    intro item member
    obtain ⟨name, inNames, rfl⟩ := List.mem_map.mp member
    have inName := named.name inNames
    have word := (Token.wordChars_of_isPlainSymbol (named.resources name inNames)).2
    have ends : endsInDo ("assert_respond_to client, :" ++ name).toList = false := by
      rw [show ("assert_respond_to client, :" ++ name).toList =
        "assert_respond_to client, ".toList ++ ':' :: name.toList by simp]
      exact endsInDo_append_word word (by decide) (by decide) (by decide)
    exact balanced_line (isPlain_of_begins "assert" (by simp) (by decide) ends
      (by simp [inName]))

theorem balanced_errorTest : Balanced [gem.errorTest] := by
  have module := named.module
  refine balanced_block (by decide) (.afterLine ?_ (balanced_of_isBalanced (by decide)))
  exact isPlain_of_ends "error" (by simp) (by decide) (by decide) (by simp [module])

theorem balanced_errorResponseTest : Balanced [gem.errorResponseTest] := by
  have module := named.module
  have baseUrl : '\n' ∉ gem.api.baseUrl.toList := named.settings _ (by simp)
  have inAddress : '\n' ∉ (gem.address "error_test").toList :=
    newline_not_mem_address baseUrl (by decide)
  refine balanced_block (by decide) (.afterLine ?stubbed (.after (by decide)
    (.after (by decide +kernel) (.afterBlank ((balanced_block ?raises (balanced_line ?request)).cons
      (balanced_of_isBalanced (by decide)))))))
  case stubbed => exact isPlain_around (by decide) (by decide) (by simp [inAddress])
  case raises => exact isHeader_do (by decide) (by simp) (by simp [module])
  case request =>
    exact named.isPlain_module (by simp) (endsInDo_of_endsPlain (by decide)) (by simp [module])

theorem PlainlyNamed.isPlain_resultAssertions (isCollection : Bool) :
    ∀ text ∈ resultAssertions gem.moduleName isCollection, IsPlain text := by
  have module := named.module
  unfold resultAssertions
  split
  all_goals
    refine List.forall_mem_cons.mpr ⟨?_, by decide⟩
    exact isPlain_around (by decide) (by decide) (by simp [module])

theorem balanced_endpointTest {resource : String} (format : ResponseFormat) {endpoint : Endpoint}
    (inResource : '\n' ∉ resource.toList) (plainName : isPlainSymbol endpoint.name = true)
    (inPath : '\n' ∉ endpoint.path.toList)
    (keys : ∀ key ∈ formatKeys format, '\n' ∉ key.toList) :
    Balanced [gem.endpointTest resource format endpoint] := by
  have module := named.module
  have baseUrl : '\n' ∉ gem.api.baseUrl.toList := named.settings _ (by simp)
  have header : IsHeader ("def " ++ endpointTestName resource endpoint) :=
    isHeader_opening _ (by decide) (newline_not_mem_endpointTestName resource endpoint)
  refine balanced_block header ((((Balanced.afterLine ?body (balanced_line ?stubbed)).append
    ?queried).append ?called).append
      (balanced_map_line (named.isPlain_resultAssertions endpoint.isCollection)))
  case body =>
    have oneLine := newline_not_mem_sampleBody keys endpoint.isCollection
    exact isPlain_behind (by decide) (endsPlain_sampleBody _ _) (by simp [oneLine])
  case stubbed =>
    have inAddress := newline_not_mem_testAddress baseUrl inPath
    have verb : '\n' ∉ endpoint.verb.name.toList := by cases endpoint.verb <;> decide
    exact isPlain_of_ends "stub" (by simp) (by decide) (by decide) (by simp [inAddress, verb])
  case queried => split <;> exact balanced_of_isBalanced (by decide)
  case called =>
    refine .after (by decide) (.after (by decide +kernel) (.afterBlank (.afterLine ?client
      (.afterLine (isPlain_testCall inResource plainName) balanced_blank))))
    exact isPlain_around (by decide) (by decide) (by simp [module])

theorem balanced_testSuiteSource : Balanced gem.testSuiteSource := by
  have module := named.module
  refine balanced_preamble.append (.after (by decide) (.afterBlank (balanced_block ?header
    (Balanced.append ?fixed (balanced_eachAfterBlank ?tests)))))
  case header =>
    rw [String.append_assoc]
    exact isHeader_opening _ (by decide) (by simp [module])
  case fixed =>
    exact (balanced_setupTest named).cons (.afterBlank
      ((balanced_configurationTest named).cons (.afterBlank
        ((balanced_clientTest named).cons (.afterBlank
          ((balanced_errorTest named).cons (.afterBlank
            (balanced_errorResponseTest named))))))))
  case tests =>
    intro item member
    obtain ⟨⟨name, resource⟩, inResources, inTests⟩ := List.mem_flatMap.mp member
    obtain ⟨endpoint, inEndpoints, rfl⟩ := List.mem_map.mp inTests
    have inNames : name ∈ gem.resourceNames := List.mem_map_of_mem inResources
    exact balanced_endpointTest named _ (named.name inNames)
      (named.endpoints _ inResources endpoint inEndpoints).1
      (named.paths _ inResources endpoint inEndpoints) (named.keys _ inResources)

def isSourcePath (path : FilePath) : Bool :=
  ".rb".toList.isSuffixOf path.text.toList

theorem balanced_files {file : File} (member : file ∈ gem.files)
    (source : isSourcePath file.path = true) : IsBlockBalanced file.content := by
  simp only [files, List.mem_append] at member
  rcases member with (((base | entry) | ofResource) | document) | test
  · have sources : ∀ source ∈ gem.baseSources, Balanced source.2 := by
      simp only [baseSources, List.forall_mem_cons]
      exact ⟨balanced_configurationSource named, balanced_clientSource named,
        balanced_requestSource named, balanced_errorSource named, balanced_objectSource named,
        balanced_collectionSource named, balanced_cacheSource named,
        balanced_versionSource named, List.forall_mem_nil _⟩
    obtain ⟨entry, inSources, rfl⟩ := List.mem_map.mp base
    exact (sources entry inSources).isBlockBalanced
  · rw [List.mem_singleton.mp entry]
    exact (balanced_entrySource named).isBlockBalanced
  · obtain ⟨entry, inResources, rfl⟩ := List.mem_map.mp ofResource
    exact (balanced_resourceSource named inResources).isBlockBalanced
  · have none : ∀ document ∈ gem.documents, isSourcePath document.path = false := by
      simp only [documents, List.forall_mem_cons]
      exact ⟨by decide, by decide, List.forall_mem_nil _⟩
    rw [none file document] at source
    cases source
  · have sources : ∀ file ∈ gem.testFiles, IsBlockBalanced file.content := by
      simp only [testFiles, List.forall_mem_cons]
      exact ⟨(balanced_testHelperSource named).isBlockBalanced,
        (balanced_testSuiteSource named).isBlockBalanced, List.forall_mem_nil _⟩
    exact sources file test

theorem missingName?_eq_none : gem.missingName? = none := by
  have word : ¬gem.HasNoWord := by
    intro separators
    have empty := (Ruby.moduleName_eq_empty_iff gem.apiName).mpr separators
    obtain ⟨c, more, starts, -⟩ := named.module_starts
    rw [Gem.moduleName, empty] at starts
    cases starts
  refine missingName?_eq_none_iff.mpr ⟨word, fun entry member => ⟨?_, ?_⟩⟩
  · exact not_isBlankText (named.resources entry.1 (List.mem_map_of_mem member))
  · intro endpoint inEndpoints
    exact not_isBlankText (named.endpoints entry member endpoint inEndpoints).1

end Names

/-- Every file of source is balanced, with any number of resources and endpoints. -/
theorem render_balanced (gem : Gem) (named : gem.PlainlyNamed) :
    ∃ files, gem.render = .ok files ∧
      ∀ file ∈ files, isSourcePath file.path = true → IsBlockBalanced file.content := by
  exact ⟨gem.files, render_of_complete (missingName?_eq_none named),
    fun file member => balanced_files named member⟩

def market : Gem where
  api.nameSetting := some "end-case"
  api.baseUrlSetting := some "if x do |y|"
  api.auth := .oauth
  api.responseFormat.itemRoot := some " do"
  api.resources :=
    (ResourceTable.empty.insert "do"
      { endpoints :=
          [{ name := "end", pathSetting := some "/def/{else}/ do", params := true },
            { name := "list" }] }).insert
      "module" { endpoints := [{ name := "if", verb := .post }] }

theorem render_balanced_market : market.PlainlyNamed ∧ ∃ files, market.render = .ok files ∧
    ∀ file ∈ files, isSourcePath file.path = true → IsBlockBalanced file.content := by
  have named : market.PlainlyNamed := {
    apiLetter := ⟨'e', rfl, rfl⟩
    apiUnbroken := by decide
    resources := by decide
    endpoints := by decide +kernel
    paths := by decide +kernel
    keys := by decide +kernel
    settings := by decide }
  exact ⟨named, render_balanced market named⟩

end ClientGem.Gem
