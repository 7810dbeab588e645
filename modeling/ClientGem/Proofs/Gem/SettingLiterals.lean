import ClientGem.Proofs.Gem.Paths
import ClientGem.Proofs.Ruby.Name
import ClientGem.Proofs.Ruby.Setting

/-!
The texts of a configuration that generated files give to settings, each as a string literal. What
is read where a setting is made is the configured text, but for two ways of writing it: the
introduction shows the base address without escaping it, and lines laid one by one are indented
inside a literal.
-/

namespace ClientGem.Gem

open Api Output Ruby Source

def settingNames (owner : String) : List String :=
  ["base_url", "api_key_header", "token_url"].map (owner ++ ·)

def credentialSetting (api : Config) : List (String × String) :=
  match api.auth with
  | .none => []
  | .basic => []
  | .apiKey => [("api_key_header", api.apiKeyHeader)]
  | .oauth => [("token_url", api.tokenUrl)]

def readAs (owner : String) (given : List (String × String)) : List (String × Option String) :=
  given.map fun (name, text) => (owner ++ name, some text)

theorem distinct_settingNames_own : Distinct (settingNames "@") where
  unbroken := by decide
  underscored := by decide
  unindented := by decide
  apart := by decide

theorem distinct_settingNames_config : Distinct (settingNames "config.") where
  unbroken := by decide
  underscored := by decide
  unindented := by decide
  apart := by decide

def laidSettings (owner : String) (depth : Nat) (given : List (String × String)) :
    List (String × Option String) :=
  given.map fun (name, text) => (owner ++ name, some (hanging depth text))

/-- Lines of which some give a text to a setting, in the order of the settings. -/
inductive GiveTexts (owner : String) (names : List String) (depth : Nat) :
    List String → List (String × String) → Prop
  | nil : GiveTexts owner names depth [] []
  | other {line : String} {lines : List String} {given : List (String × String)}
    (framed : isFramed line = true)
    (passed : passes names (indent depth (hanging depth line)) = true)
    (rest : GiveTexts owner names depth lines given) :
    GiveTexts owner names depth (line :: lines) given
  | text {name start value : String} {lines : List String} {given : List (String × String)}
    (framed : isFramed start = true) (member : owner ++ name ∈ names)
    (spelled : owner ++ name ++ " = " = start) (rest : GiveTexts owner names depth lines given) :
    GiveTexts owner names depth ((start ++ stringLiteral value) :: lines) ((name, value) :: given)

section GiveTexts

variable {owner : String} {names : List String} {depth : Nat} {lines : List String}
  {given : List (String × String)}

theorem GiveTexts.framed (gives : GiveTexts owner names depth lines given) :
    ∀ line ∈ lines, isFramed line = true := by
  induction gives with
  | nil => exact List.forall_mem_nil _
  | other framed _ _ ih => exact List.forall_mem_cons.mpr ⟨framed, ih⟩
  | text framed _ _ _ ih => exact List.forall_mem_cons.mpr ⟨isFramed_assignment framed _, ih⟩

theorem GiveTexts.settling (gives : GiveTexts owner names depth lines given)
    (distinct : Distinct names) : Settling names (written depth (hungLines depth lines))
      (laidSettings owner depth given) := by
  induction gives with
  | nil => exact .nil
  | other _ passed _ ih => exact .cons (settles_of_passes distinct passed) ih
  | text _ member spelled _ ih => exact .cons (settles_hanging distinct member spelled depth _) ih

end GiveTexts

theorem giveTexts_credentialDefaults (api : Config) :
    GiveTexts "@" (settingNames "@") 3 (credentialDefaults api) (credentialSetting api) := by
  unfold credentialDefaults credentialSetting
  cases api.auth with
  | none => exact .nil
  | basic => exact .other (by decide) (by decide) (.other (by decide) (by decide) .nil)
  | apiKey =>
    exact .other (by decide) (by decide) (.text (by decide) (by decide) (by decide) .nil)
  | oauth =>
    exact .other (by decide) (by decide) (.other (by decide) (by decide)
      (.text (by decide) (by decide) (by decide) (.other (by decide) (by decide) .nil)))

theorem giveTexts_credentialTestSettings (api : Config) :
    GiveTexts "config." (settingNames "config.") 3 (credentialTestSettings api)
      (credentialSetting api) := by
  unfold credentialTestSettings credentialSetting
  cases api.auth with
  | none => exact .nil
  | basic => exact .other (by decide) (by decide) (.other (by decide) (by decide) .nil)
  | apiKey =>
    exact .other (by decide) (by decide) (.text (by decide) (by decide) (by decide) .nil)
  | oauth =>
    exact .other (by decide) (by decide) (.other (by decide) (by decide)
      (.text (by decide) (by decide) (by decide) .nil))

variable (gem : Gem)

theorem underscore_not_mem_moduleName : '_' ∉ gem.moduleName.toList :=
  Ruby.underscore_not_mem_moduleName gem.apiName

def settingMembers (credentials : Source) : Source :=
  [.line "attr_accessor :base_url, :timeout, :headers, :cache"] ++
    (if gem.api.auth.isAuthenticated then
      [.line ("attr_accessor " ++
        ", ".intercalate ((credentialAttributes gem.api.auth).map (":" ++ ·)))]
    else []) ++
    [ .blank,
      .block "def initialize"
        ([ .line ("@base_url = " ++ stringLiteral gem.api.baseUrl),
           .line "@timeout = 30",
           .lines
             [ "@headers = \x7b",
               "  \"Content-Type\" => \"application/json\",",
               "  \"Accept\" => \"application/json\"",
               "\x7d" ],
           .line "@cache = nil" ] ++
          credentials) ]

theorem alike_settingMembers {credentials credentials' : Source}
    (alike : Alike 3 credentials credentials') :
    Alike 2 (gem.settingMembers credentials) (gem.settingMembers credentials') :=
  (Alike.refl 2 _).append ((Alike.refl 2 [.blank]).append
    (.block _ ((Alike.refl 3 _).append alike)))

theorem settling_settingMembers {credentials : Source} {made : List (String × Option String)}
    (settling : Settling (settingNames "@") (written 3 credentials) made) :
    Settling (settingNames "@") (written 2 (gem.settingMembers credentials))
      (("@base_url", some gem.api.baseUrl) :: made) := by
  have distinct := distinct_settingNames_own
  have common : Settling (settingNames "@")
      (written 2 [.line "attr_accessor :base_url, :timeout, :headers, :cache"]) [] :=
    settling_of_passes distinct (by decide)
  have others : Settling (settingNames "@") (written 2 (if gem.api.auth.isAuthenticated then
      [.line ("attr_accessor " ++
        ", ".intercalate ((credentialAttributes gem.api.auth).map (":" ++ ·)))] else [])) [] := by
    cases gem.api.auth <;> exact settling_of_passes distinct (by decide)
  have address : Settles (settingNames "@")
      (indent 3 ("@base_url = " ++ stringLiteral gem.api.baseUrl))
      [("@base_url", some gem.api.baseUrl)] :=
    settles_literal distinct (by decide) (by decide) 3 _
  have fixed : Settling (settingNames "@") (written 3
      [ .line "@timeout = 30",
        .lines ["@headers = \x7b", "  \"Content-Type\" => \"application/json\",",
          "  \"Accept\" => \"application/json\"", "\x7d"],
        .line "@cache = nil" ]) [] :=
    settling_of_passes distinct (by decide)
  rw [settingMembers, written_append, written_append]
  refine (common.append others).append
    (settling_block distinct (settling_header distinct (by decide) 2) ?_)
  rw [written_append]
  exact .cons address (fixed.append settling)

/-- The settings of a new configuration; only the address is not laid line by line. -/
theorem settings_configuration :
    settings (settingNames "@") gem.configurationSource.layout.toList =
      ("@base_url", some gem.api.baseUrl) :: laidSettings "@" 3 (credentialSetting gem.api) := by
  have distinct := distinct_settingNames_own
  have module : '_' ∉ ("module " ++ gem.moduleName).toList := by
    simp [gem.underscore_not_mem_moduleName]
  have members := gem.alike_settingMembers
    (alike_lines (giveTexts_credentialDefaults gem.api).framed)
  have alike : Alike 0 gem.configurationSource (preamble ++ [.block ("module " ++ gem.moduleName)
      [.block "class Configuration"
        (gem.settingMembers (hungLines 3 (credentialDefaults gem.api)))]]) :=
    (Alike.refl 0 preamble).append (.block _ (.block _ members))
  have start : Settling (settingNames "@") (written 0 preamble) [] :=
    settling_of_passes distinct (by decide)
  rw [alike.layout_eq]
  apply settings_layout distinct
  rw [written_append]
  exact start.append (settling_block distinct (settling_header distinct module 0)
    (settling_block distinct (settling_header distinct (by decide) 1)
      (gem.settling_settingMembers ((giveTexts_credentialDefaults gem.api).settling distinct))))

theorem settling_configure (depth : Nat) : Settling (settingNames "config.")
    ((Text.lines (gem.moduleName ++ ".configure do |config|")).map (indent depth)) [] :=
  settling_header distinct_settingNames_config (by simp [gem.underscore_not_mem_moduleName]) depth

theorem settling_setupTest : Settling (settingNames "config.") (written 1 [gem.setupTest, .blank])
    [("config.base_url", some gem.api.baseUrl)] := by
  have distinct := distinct_settingNames_config
  have reset : Settling (settingNames "config.")
      (written 2 [.line (gem.moduleName ++ ".reset!")]) [] :=
    .cons (settles_indent distinct (by simp [gem.underscore_not_mem_moduleName]) 2) .nil
  have address : Settling (settingNames "config.")
      (written 3 [.line ("config.base_url = " ++ stringLiteral gem.api.baseUrl)])
      [("config.base_url", some gem.api.baseUrl)] :=
    .cons (settles_literal distinct (by decide) (by decide) 3 _) .nil
  have token : Settling (settingNames "config.") (written 3 (if gem.api.auth = .oauth
      then [.line "config.access_token = \"test_access_token\""] else [])) [] := by
    split <;> exact settling_of_passes distinct (by decide)
  exact settling_block distinct (settling_header distinct (by decide) 1)
    (reset.append (settling_block distinct (gem.settling_configure 2) (address.append token)))

def configurationTestWith (credentials : Source) : Item :=
  .block "def test_configuration"
    ([ .block (gem.moduleName ++ ".configure do |config|")
        ([.line "config.base_url = \"https://api.test.org\"", .line "config.timeout = 60"] ++
          credentials) ] ++
      [ .blank,
        .line ("assert_equal \"https://api.test.org\", " ++ gem.moduleName ++
          ".configuration.base_url"),
        .line ("assert_equal 60, " ++ gem.moduleName ++ ".configuration.timeout"),
        .lines (credentialAssertions gem.moduleName gem.api) ])

theorem alike_configurationTestWith {credentials credentials' : Source}
    (alike : Alike 3 credentials credentials') :
    Alike 1 [gem.configurationTestWith credentials] [gem.configurationTestWith credentials'] :=
  .block _ ((Alike.block _ ((Alike.refl 3 _).append alike)).append (Alike.refl 2 _))

theorem begins_configurationTestWith {credentials : Source} {made : List (String × Option String)}
    (settling : Settling (settingNames "config.") (written 3 credentials) made) :
    BeginsSettling (settingNames "config.")
      (written 1 [gem.configurationTestWith credentials])
      (("config.base_url", some "https://api.test.org") :: made) := by
  have distinct := distinct_settingNames_config
  have address : Settles (settingNames "config.")
      (indent 3 "config.base_url = \"https://api.test.org\"")
      [("config.base_url", some "https://api.test.org")] := by
    have spelled : "config.base_url = \"https://api.test.org\"" =
        "config.base_url = " ++ stringLiteral "https://api.test.org" := by decide
    rw [spelled]
    exact settles_literal distinct (by decide) (by decide) 3 _
  have fixed : Settling (settingNames "config.") (written 3
      [.line "config.base_url = \"https://api.test.org\"", .line "config.timeout = 60"])
      [("config.base_url", some "https://api.test.org")] :=
    .cons address (.cons (settles_of_passes distinct (by decide)) .nil)
  refine begins_block (settling_of_passes distinct (by decide)) ?_
  rw [written_append]
  refine (settling_block distinct (gem.settling_configure 2) ?_).begins.append _
  rw [written_append]
  exact fixed.append settling

/-- The first settings of the tests: the address that all of them use, and what the test of the
configuration sets. -/
theorem settings_testSuite :
    ("config.base_url", some gem.api.baseUrl) ::
        ("config.base_url", some "https://api.test.org") ::
          laidSettings "config." 3 (credentialSetting gem.api) <+:
      settings (settingNames "config.") gem.testSuiteSource.layout.toList := by
  have distinct := distinct_settingNames_config
  let start : Source := preamble ++ [.line "require \"test_helper\"", .blank]
  let header := "class " ++ gem.moduleName ++ "Test < Minitest::Test"
  let test := gem.configurationTestWith (hungLines 3 (credentialTestSettings gem.api))
  let others : Source :=
    [.blank, gem.clientTest, .blank, gem.errorTest, .blank, gem.errorResponseTest] ++
      eachAfterBlank gem.endpointTests
  have tests : Alike 1 ([gem.setupTest, .blank] ++ [gem.configurationTest] ++ others)
      ([gem.setupTest, .blank] ++ [test] ++ others) :=
    ((Alike.refl 1 _).append (gem.alike_configurationTestWith
      (alike_lines (giveTexts_credentialTestSettings gem.api).framed))).append (Alike.refl 1 others)
  have alike : Alike 0 gem.testSuiteSource
      (start ++ [.block header ([gem.setupTest, .blank] ++ [test] ++ others)]) :=
    (Alike.refl 0 start).append (.block header tests)
  have passed : Settling (settingNames "config.") (written 0 start) [] :=
    settling_of_passes distinct (by decide)
  have opened : Settling (settingNames "config.") ((Text.lines header).map (indent 0)) [] :=
    settling_header distinct (by simp [header, gem.underscore_not_mem_moduleName]) 0
  have inClass : BeginsSettling (settingNames "config.")
      (written 1 ([gem.setupTest, .blank] ++ [test] ++ others))
      (("config.base_url", some gem.api.baseUrl) ::
        ("config.base_url", some "https://api.test.org") ::
          laidSettings "config." 3 (credentialSetting gem.api)) := by
    rw [written_append, written_append]
    exact (gem.settling_setupTest.append_begins (gem.begins_configurationTestWith
      ((giveTexts_credentialTestSettings gem.api).settling distinct))).append _
  rw [alike.layout_eq]
  apply BeginsSettling.prefix_settings distinct
  rw [written_append]
  exact passed.append_begins (begins_block opened inClass)

def shownSetting (api : Config) : List (String × String) :=
  match api.auth with
  | .apiKey => [("api_key_header", api.apiKeyHeader)]
  | _ => []

def behindAddress : List String :=
  "  config.timeout = 30" :: (credentialExample gem.api).map ("  " ++ ·) ++
    [ "end", "```", "",
      "Each client can also carry its own configuration: `" ++ gem.moduleName ++
        "::Client.new(my_configuration)`." ]

theorem configurationGuide_eq : gem.configurationGuide = joinLines
    (["## Configuration", "", "```ruby", gem.moduleName ++ ".configure do |config|"] ++
      ("  config.base_url = \"" ++ gem.api.baseUrl ++ "\"") :: gem.behindAddress) := by
  rw [configurationGuide, behindAddress]
  simp

theorem readme_eq : ∃ rest, gem.readme = gem.introduction ++ "\n\n" ++ gem.installation ++ "\n\n" ++
    (gem.configurationGuide ++ "\n" ++ rest) := by
  refine ⟨"\n" ++ joinSections [gem.usage, gem.overview, gem.errorGuide, referenceGuide,
    gem.cacheGuide], ?_⟩
  have apart : "\n\n" = "\n" ++ "\n" := by decide
  simp only [readme, joinSections, String.intercalate_cons_cons, String.append_assoc, apart]

theorem begins_behindAddress :
    BeginsSettling (settingNames "config.") gem.behindAddress
      (readAs "config." (shownSetting gem.api)) := by
  have distinct := distinct_settingNames_config
  have named : "config." ++ "api_key_header" = "config.api_key_header" := by decide
  cases mode : gem.api.auth
  case apiKey =>
    have indented : "  " ++ ("config.api_key_header = " ++ stringLiteral gem.api.apiKeyHeader) =
        indent 1 ("config.api_key_header = " ++ stringLiteral gem.api.apiKeyHeader) := by
      apply String.toList_inj.mp
      rw [toList_indent (by simp [stringLiteral])]
      simp
    have fixed : Settling (settingNames "config.")
        ["  config.timeout = 30", "  config.api_key = \"your_api_key\""] [] :=
      settling_of_passes distinct (by decide)
    have header : Settles (settingNames "config.")
        (indent 1 ("config.api_key_header = " ++ stringLiteral gem.api.apiKeyHeader))
        [("config.api_key_header", some gem.api.apiKeyHeader)] :=
      settles_literal distinct (by decide) (by decide) 1 _
    have shown := fixed.append (.cons header .nil)
    simp only [behindAddress, credentialExample, shownSetting, readAs, mode, List.map_cons,
      List.map_nil, named, indented]
    exact shown.begins.append _
  all_goals
    have nothing : readAs "config." (shownSetting gem.api) = [] := by
      simp [shownSetting, readAs, mode]
    rw [nothing]
    exact ⟨[], _, rfl, .nil⟩

theorem settings_behindAddress (rest : List Char) : readAs "config." (shownSetting gem.api) <+:
    settings (settingNames "config.") (laid gem.behindAddress ++ rest) := by
  obtain ⟨first, others, split, settling⟩ := gem.begins_behindAddress
  rw [split, laid_append, List.append_assoc, settling.settings_eq]
  exact List.prefix_append _ _

/-- The settings of the introduction, from where it shows how to make them. -/
theorem settings_guide (rest : List Char) : ∃ reading more,
    settings (settingNames "config.") ((gem.configurationGuide ++ "\n").toList ++ rest) =
        ("config.base_url", reading) :: more ∧
      (reading = some gem.api.baseUrl ↔ isVerbatim gem.api.baseUrl.toList = true) ∧
      (isVerbatim gem.api.baseUrl.toList = true →
        readAs "config." (shownSetting gem.api) <+: more) := by
  have distinct := distinct_settingNames_config
  let start := ["## Configuration", "", "```ruby", gem.moduleName ++ ".configure do |config|"]
  have configure : Settles (settingNames "config.")
      (gem.moduleName ++ ".configure do |config|") [] :=
    settles_text distinct (by simp [gem.underscore_not_mem_moduleName])
  have heading : Settling (settingNames "config.") ["## Configuration", "", "```ruby"] [] :=
    settling_of_passes distinct (by decide)
  have passed : Settling (settingNames "config.") start [] :=
    heading.append (.cons configure .nil)
  have text : (gem.configurationGuide ++ "\n").toList ++ rest = laid start ++
      (List.replicate 2 ' ' ++ (assignment "config.base_url" ++
        (gem.api.baseUrl.toList ++ '"' :: '\n' :: (laid gem.behindAddress ++ rest)))) := by
    rw [configurationGuide_eq, joinLines, intercalate_append_break (by simp), laid_append,
      laid_cons]
    simp [assignment]
  rw [text, passed.settings_eq, List.nil_append]
  by_cases verbatim : isVerbatim gem.api.baseUrl.toList = true
  · refine ⟨_, _, settings_verbatim distinct (by decide) 2 verbatim _, ?_, ?_⟩
    · simp [verbatim]
    · exact fun _ => gem.settings_behindAddress rest
  · obtain ⟨reading, more, same, readable⟩ := settings_unescaped distinct
      (show "config.base_url" ∈ settingNames "config." by decide) 2 gem.api.baseUrl.toList
        ('\n' :: (laid gem.behindAddress ++ rest))
    rw [String.ofList_toList] at readable
    exact ⟨reading, more, same, ⟨readable, fun holds => absurd holds verbatim⟩,
      fun holds => absurd holds verbatim⟩

def UnbrokenCredential (api : Config) : Prop :=
  ∀ setting ∈ credentialSetting api, '\n' ∉ setting.2.toList

instance (api : Config) : Decidable (UnbrokenCredential api) :=
  inferInstanceAs (Decidable (∀ _ ∈ _, _))

theorem laidSettings_eq_readAs_iff (owner : String) {depth : Nat} (positive : 0 < depth) :
    laidSettings owner depth (credentialSetting gem.api) =
      readAs owner (credentialSetting gem.api) ↔ UnbrokenCredential gem.api := by
  rw [laidSettings, readAs, List.map_inj_left]
  constructor
  · intro same setting member
    have text := same setting member
    simp only [Prod.mk.injEq, true_and, Option.some.injEq] at text
    exact (hanging_eq_iff positive).mp text
  · intro unbroken setting member
    have text : hanging depth setting.2 = setting.2 :=
      (hanging_eq_iff positive).mpr (unbroken setting member)
    simp only [text]

def DefaultsReadBack (api : Config) (content : String) : Prop :=
  settings (settingNames "@") content.toList =
    readAs "@" (("base_url", api.baseUrl) :: credentialSetting api)

/-- The tests begin by setting the configured address, and the test of the configuration goes on
with an address of its own and the configured credentials. -/
def TestsReadBack (api : Config) (content : String) : Prop :=
  readAs "config." (("base_url", api.baseUrl) :: ("base_url", "https://api.test.org") ::
    credentialSetting api) <+: settings (settingNames "config.") content.toList

/-- The guide to the configuration, and what comes behind it, begins by setting the configured
texts. -/
def GuideReadsBack (api : Config) (guide : String) : Prop :=
  readAs "config." (("base_url", api.baseUrl) :: shownSetting api) <+:
    settings (settingNames "config.") guide.toList

theorem readAs_cons (owner name text : String) (given : List (String × String)) :
    readAs owner ((name, text) :: given) = (owner ++ name, some text) :: readAs owner given :=
  rfl

theorem defaultsReadBack_iff :
    DefaultsReadBack gem.api gem.configurationSource.layout ↔ UnbrokenCredential gem.api := by
  have named : "@" ++ "base_url" = "@base_url" := by decide
  rw [DefaultsReadBack, settings_configuration, readAs_cons, named, List.cons_inj_right]
  exact gem.laidSettings_eq_readAs_iff "@" (by decide)

theorem testsReadBack_iff :
    TestsReadBack gem.api gem.testSuiteSource.layout ↔ UnbrokenCredential gem.api := by
  have named : "config." ++ "base_url" = "config.base_url" := by decide
  have first := gem.settings_testSuite
  have length : (laidSettings "config." 3 (credentialSetting gem.api)).length =
      (readAs "config." (credentialSetting gem.api)).length := by simp [laidSettings, readAs]
  have credentials : laidSettings "config." 3 (credentialSetting gem.api) =
      readAs "config." (credentialSetting gem.api) ↔ UnbrokenCredential gem.api :=
    gem.laidSettings_eq_readAs_iff "config." (by decide)
  rw [← credentials, TestsReadBack, readAs_cons, readAs_cons, named]
  constructor
  · intro read
    have same := (List.prefix_of_prefix_length_le first read (by simp [length])).eq_of_length
      (by simp [length])
    exact List.cons_inj_right _ |>.mp (List.cons_inj_right _ |>.mp same)
  · intro same
    rwa [← same]

/-- The introduction shows how to set the configured texts, where the address needs no escape. -/
theorem exists_guide : ∃ guide,
    gem.readme = gem.introduction ++ "\n\n" ++ gem.installation ++ "\n\n" ++ guide ∧
      (GuideReadsBack gem.api guide ↔ isVerbatim gem.api.baseUrl.toList = true) := by
  have named : "config." ++ "base_url" = "config.base_url" := by decide
  obtain ⟨rest, text⟩ := gem.readme_eq
  obtain ⟨reading, more, read, verbatim, others⟩ := gem.settings_guide rest.toList
  refine ⟨_, text, ?_⟩
  rw [GuideReadsBack, String.toList_append, read, readAs_cons, named, List.cons_prefix_cons,
    ← verbatim]
  constructor
  · rintro ⟨same, -⟩
    exact (Prod.mk.inj same).2.symm
  · intro same
    exact ⟨by rw [same], others (verbatim.mp same)⟩

/-- Where files give settings a text of the configuration, exactly this text is read: in the library
and in its tests, unless a line break of a credential is laid out with the lines around it, and in
the introduction, unless the address has to be escaped. What is read is what `readQuoted` reads,
which refuses more number signs than an interpreter of the code would. -/
theorem settings_readBack_iff {gem : Gem} {files : List File} (accepted : gem.render = .ok files) :
    (sourceFile (gem.libraryPath "configuration") gem.configurationSource ∈ files ∧
        (DefaultsReadBack gem.api gem.configurationSource.layout ↔ UnbrokenCredential gem.api)) ∧
      (sourceFile gem.testPath gem.testSuiteSource ∈ files ∧
        (TestsReadBack gem.api gem.testSuiteSource.layout ↔ UnbrokenCredential gem.api)) ∧
      ⟨⟨"README.md"⟩, gem.readme⟩ ∈ files ∧ ∃ guide,
        gem.readme = gem.introduction ++ "\n\n" ++ gem.installation ++ "\n\n" ++ guide ∧
          (GuideReadsBack gem.api guide ↔ isVerbatim gem.api.baseUrl.toList = true) := by
  obtain rfl := files_of_render accepted
  exact ⟨⟨gem.configurationFile_mem, gem.defaultsReadBack_iff⟩,
    ⟨gem.testFile_mem, gem.testsReadBack_iff⟩, gem.readmeFile_mem, gem.exists_guide⟩

def depot : Gem where
  api.nameSetting := some "depot"
  api.baseUrlSetting := some "https://depot.test/#1\n"
  api.auth := .apiKey
  api.apiKeyHeaderSetting := some "X-\"Key\\#\x7b1\x7d"

theorem settings_readBack_iff_depot : ∃ files, depot.render = .ok files ∧
    DefaultsReadBack depot.api depot.configurationSource.layout ∧
      TestsReadBack depot.api depot.testSuiteSource.layout ∧ ∃ guide,
        depot.readme = depot.introduction ++ "\n\n" ++ depot.installation ++ "\n\n" ++ guide ∧
          GuideReadsBack depot.api guide := by
  have complete : depot.missingName? = none := by decide +kernel
  have accepted : depot.render = .ok depot.files := render_of_complete complete
  have unbroken : UnbrokenCredential depot.api := by decide +kernel
  have verbatim : isVerbatim depot.api.baseUrl.toList = true := by decide
  obtain ⟨⟨-, defaults⟩, ⟨-, tests⟩, -, guide, text, shown⟩ := settings_readBack_iff accepted
  exact ⟨_, accepted, defaults.mpr unbroken, tests.mpr unbroken, guide, text, shown.mpr verbatim⟩

/-- Neither a quote in an address nor a line break in the name of a header is read back
everywhere. -/
theorem exists_setting_changed : (∃ gem : Gem, gem.render = .ok gem.files ∧ ∃ guide,
      gem.readme = gem.introduction ++ "\n\n" ++ gem.installation ++ "\n\n" ++ guide ∧
        ¬GuideReadsBack gem.api guide) ∧
    ∃ gem : Gem, gem.render = .ok gem.files ∧
      ¬DefaultsReadBack gem.api gem.configurationSource.layout ∧
        ¬TestsReadBack gem.api gem.testSuiteSource.layout := by
  constructor
  · let quoting : Gem :=
      { api := { nameSetting := some "shop", baseUrlSetting := some "https://x.test/\"q\"" } }
    obtain ⟨guide, text, shown⟩ := quoting.exists_guide
    have complete : quoting.missingName? = none := by decide +kernel
    exact ⟨quoting, render_of_complete complete, guide, text,
      fun read => absurd (shown.mp read) (by decide)⟩
  · let breaking : Gem :=
      { api := { nameSetting := some "shop", auth := .apiKey,
                 apiKeyHeaderSetting := some "X-A\nB" } }
    have complete : breaking.missingName? = none := by decide +kernel
    have broken : ¬UnbrokenCredential breaking.api := by decide
    exact ⟨breaking, render_of_complete complete,
      fun read => broken (breaking.defaultsReadBack_iff.mp read),
      fun read => broken (breaking.testsReadBack_iff.mp read)⟩

end ClientGem.Gem
