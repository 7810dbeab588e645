import ClientGem.Proofs.Gem.Paths
import ClientGem.Proofs.Ruby.Definitions
import Mathlib.Data.List.Basic

/-!
The names of the tests of a gem. Each is joined from the name of a resource and that of an endpoint
by an underscore, which both may hold themselves, so that the names of two tests can be the same
although those of resources and endpoints are distinct.
-/

namespace ClientGem.Gem

open Api Output Ruby

def isTestName (name : String) : Bool :=
  "test_".toList.isPrefixOf name.toList

/-- The tests in the suite; a later one takes the place of an earlier one of the same name. -/
def testMethods (gem : Gem) : List String :=
  ((Source.classes [] gem.testSuiteSource).flatMap fun body => methodNames body.items).filter
    isTestName

def namedEndpoints (gem : Gem) : List (String × Endpoint) :=
  gem.resources.flatMap fun (name, resource) =>
    resource.endpoints.map fun endpoint => (name, endpoint)

def fixedSubjects : List String :=
  ["configuration", "client_initialization", "error_handling", "http_error_response"]

def fixedTests : List String :=
  fixedSubjects.map ("test_" ++ ·)

def nameParts (entry : String × Endpoint) : List Char × List Char :=
  ((methodSafe entry.1).toList, (methodSafe entry.2.name).toList)

def joinParts (parts : List Char × List Char) : List Char :=
  parts.1 ++ '_' :: parts.2

/-- Some of the first part of one stands at the beginning of the second part of the other. -/
def Shifted (short long : List Char × List Char) : Prop :=
  ∃ middle, long.1 = short.1 ++ '_' :: middle ∧ short.2 = middle ++ '_' :: long.2

def Overlap (first second : List Char × List Char) : Prop :=
  first = second ∨ Shifted first second ∨ Shifted second first

theorem shifted_of_append {a b c d rest : List Char} (longer : c = a ++ rest)
    (behind : '_' :: b = rest ++ '_' :: d) : (a, b) = (c, d) ∨ Shifted (a, b) (c, d) := by
  -- What the longer first part has more is nothing, or begins where the shorter one was joined.
  cases rest with
  | nil =>
    obtain rfl := (List.cons.inj behind).2
    exact .inl (by rw [longer, List.append_nil])
  | cons mark middle =>
    obtain ⟨rfl, split⟩ := List.cons.inj behind
    exact .inr ⟨middle, longer, split⟩

theorem joinParts_of_shifted {short long : List Char × List Char} (shifted : Shifted short long) :
    joinParts short = joinParts long := by
  obtain ⟨middle, first, second⟩ := shifted
  rw [joinParts, joinParts, first, second, List.append_assoc]
  rfl

theorem joinParts_eq_iff {first second : List Char × List Char} :
    joinParts first = joinParts second ↔ Overlap first second := by
  constructor
  · intro same
    rcases List.append_eq_append_iff.mp same with ⟨rest, longer, behind⟩ | ⟨rest, longer, behind⟩
    · rcases shifted_of_append longer behind with same | shifted
      · exact .inl same
      · exact .inr (.inl shifted)
    · rcases shifted_of_append longer behind with same | shifted
      · exact .inl same.symm
      · exact .inr (.inr shifted)
  · rintro (rfl | shifted | shifted)
    · rfl
    · exact joinParts_of_shifted shifted
    · exact (joinParts_of_shifted shifted).symm

instance (first second : List Char × List Char) : Decidable (Overlap first second) :=
  decidable_of_iff _ joinParts_eq_iff

def partings : List Char → List (List Char × List Char)
  | [] => []
  | c :: cs =>
    (if c = '_' then [([], cs)] else []) ++
      (partings cs).map fun parts => (c :: parts.1, parts.2)

theorem mem_partings {cs : List Char} {parts : List Char × List Char} :
    parts ∈ partings cs ↔ joinParts parts = cs := by
  obtain ⟨first, second⟩ := parts
  induction cs generalizing first with
  | nil => simp [partings, joinParts]
  | cons c cs ih =>
    rw [partings, List.mem_append]
    -- The text is parted at its first character, or somewhere behind it.
    cases first with
    | nil =>
      by_cases mark : c = '_'
      · simp [mark, joinParts, eq_comm]
      · simp [mark, joinParts, Ne.symm mark]
    | cons d first =>
      have later : (d :: first, second) ∈ (partings cs).map (fun parts => (c :: parts.1, parts.2)) ↔
          d = c ∧ (first, second) ∈ partings cs := by
        constructor
        · intro member
          obtain ⟨⟨before, after⟩, inPartings, same⟩ := List.mem_map.mp member
          cases same
          exact ⟨rfl, inPartings⟩
        · rintro ⟨rfl, inPartings⟩
          exact List.mem_map.mpr ⟨_, inPartings, rfl⟩
      have notHere : (d :: first, second) ∉ if c = '_' then [([], cs)] else [] := by
        split <;> simp
      rw [or_iff_right notHere, later, ih]
      exact List.cons_eq_cons.symm

def reservedParts : List (List Char × List Char) :=
  [("client".toList, "initialization".toList), ("error".toList, "handling".toList),
    ("http".toList, "error_response".toList), ("http_error".toList, "response".toList)]

/-- The names of the tests stay apart from each other and from those of the fixed tests. -/
structure SeparateTests (gem : Gem) : Prop where
  apart : gem.namedEndpoints.Pairwise fun first second =>
    ¬Overlap (nameParts first) (nameParts second)
  free : ∀ entry ∈ gem.namedEndpoints, nameParts entry ∉ reservedParts

theorem toList_endpointTestName (entry : String × Endpoint) :
    (endpointTestName entry.1 entry.2).toList = "test_".toList ++ joinParts (nameParts entry) := by
  unfold endpointTestName
  rw [String.toList_append, String.toList_append, String.toList_append, List.append_assoc,
    List.append_assoc]
  rfl

theorem endpointTestName_eq_iff {first second : String × Endpoint} :
    endpointTestName first.1 first.2 = endpointTestName second.1 second.2 ↔
      Overlap (nameParts first) (nameParts second) := by
  rw [← joinParts_eq_iff, ← String.toList_inj, toList_endpointTestName, toList_endpointTestName,
    List.append_cancel_left_eq]

theorem endpointTestName_mem_fixedTests {entry : String × Endpoint} :
    endpointTestName entry.1 entry.2 ∈ fixedTests ↔ nameParts entry ∈ reservedParts := by
  have reserved : reservedParts = fixedSubjects.flatMap fun subject => partings subject.toList := by
    decide
  rw [reserved, List.mem_flatMap, fixedTests, List.mem_map]
  apply exists_congr
  intro subject
  rw [mem_partings, ← String.toList_inj, toList_endpointTestName, String.toList_append,
    List.append_cancel_left_eq, eq_comm]

theorem endsName_of_isWordChar {c : Char} (word : isWordChar c = true) : endsName c = false := by
  apply Bool.eq_false_iff.mpr
  intro ends
  rcases Bool.or_eq_true_iff.mp ends with blank | paren
  · rw [beq_iff_eq.mp blank] at word
    exact absurd word (by decide)
  · rw [beq_iff_eq.mp paren] at word
    exact absurd word (by decide)

theorem isWordChar_of_mem_methodSafe {name : String} {c : Char}
    (member : c ∈ (methodSafe name).toList) : isWordChar c = true := by
  rw [methodSafe, String.toList_ofList] at member
  obtain ⟨d, -, rfl⟩ := List.mem_map.mp member
  split
  · next word => exact word
  · decide

theorem leadingName_endpointTestName (entry : String × Endpoint) :
    leadingName (endpointTestName entry.1 entry.2) = endpointTestName entry.1 entry.2 := by
  apply leadingName_of_forall
  intro c member
  apply endsName_of_isWordChar
  rw [toList_endpointTestName, joinParts, List.mem_append, List.mem_append, List.mem_cons] at member
  rcases member with start | first | rfl | second
  · have all : "test_".toList.all isWordChar = true := by decide
    exact List.all_eq_true.mp all c start
  · exact isWordChar_of_mem_methodSafe first
  · decide
  · exact isWordChar_of_mem_methodSafe second

theorem isTestName_append (rest : String) : isTestName ("test_" ++ rest) = true := by
  rw [isTestName, String.toList_append]
  exact List.isPrefixOf_iff_prefix.mpr (List.prefix_append _ _)

variable (gem : Gem)

theorem endpointTest_defines (name : String) (format : ResponseFormat) (endpoint : Endpoint) :
    (gem.endpointTest name format endpoint).Defines (endpointTestName name endpoint) := by
  rw [← leadingName_endpointTestName (name, endpoint)]
  exact defines_block _ _

theorem classes_endpointTests (outer : List String) :
    Source.classes outer gem.endpointTests = [] := by
  apply classes_eq_nil
  intro item member
  obtain ⟨⟨name, resource⟩, -, inResource⟩ := List.mem_flatMap.mp member
  obtain ⟨endpoint, -, rfl⟩ := List.mem_map.mp inResource
  exact (gem.endpointTest_defines name _ endpoint).classes_eq outer

theorem methodNames_endpointTests : methodNames gem.endpointTests =
    gem.namedEndpoints.map fun entry => endpointTestName entry.1 entry.2 := by
  unfold endpointTests namedEndpoints
  rw [methodNames, List.flatMap_assoc, List.map_flatMap]
  apply List.flatMap_congr
  rintro ⟨name, resource⟩ _
  rw [List.map_map]
  exact methodNames_map (gem.endpointTest_defines name _) resource.endpoints

def fixedItems : List Item :=
  [gem.setupTest, .blank, gem.configurationTest, .blank, gem.clientTest, .blank, gem.errorTest,
    .blank, gem.errorResponseTest]

theorem methodNames_fixedItems : methodNames gem.fixedItems = "setup" :: fixedTests :=
  rfl

theorem classes_fixedItems (outer : List String) : Source.classes outer gem.fixedItems = [] :=
  rfl

theorem classes_testSuiteSource : Source.classes [] gem.testSuiteSource =
    [⟨[leadingName (gem.moduleName ++ "Test < Minitest::Test")],
      gem.fixedItems ++ eachAfterBlank gem.endpointTests⟩] := by
  have inside (outer : List String) :
      Source.classes outer (gem.fixedItems ++ eachAfterBlank gem.endpointTests) = [] := by
    rw [classes_append, classes_fixedItems, classes_eachAfterBlank, classes_endpointTests]
    rfl
  have source : gem.testSuiteSource = Source.preamble ++
      [ .line "require \"test_helper\"", .blank,
        .block ("class " ++ (gem.moduleName ++ "Test < Minitest::Test"))
          (gem.fixedItems ++ eachAfterBlank gem.endpointTests) ] := by
    rw [testSuiteSource, String.append_assoc]
    rfl
  rw [source, classes_preamble, Source.classes, Source.classes, classes_singleton, classes_class,
    inside]
  rfl

/-- The suite has the fixed tests, and then one test for each endpoint. -/
theorem testMethods_eq : gem.testMethods =
    fixedTests ++ gem.namedEndpoints.map fun entry => endpointTestName entry.1 entry.2 := by
  have fixed : ("setup" :: fixedTests).filter isTestName = fixedTests := by decide
  have isTest : ∀ name ∈ gem.namedEndpoints.map fun entry => endpointTestName entry.1 entry.2,
      isTestName name = true := by
    intro name member
    obtain ⟨entry, -, rfl⟩ := List.mem_map.mp member
    rw [endpointTestName, String.append_assoc, String.append_assoc]
    exact isTestName_append _
  calc
    gem.testMethods =
        (methodNames (gem.fixedItems ++ eachAfterBlank gem.endpointTests)).filter isTestName := by
      rw [testMethods, classes_testSuiteSource, List.flatMap_singleton]
    _ = ("setup" :: fixedTests ++ gem.namedEndpoints.map fun entry =>
          endpointTestName entry.1 entry.2).filter isTestName := by
      rw [methodNames_append, methodNames_fixedItems, methodNames_eachAfterBlank,
        methodNames_endpointTests]
    _ = fixedTests ++ gem.namedEndpoints.map fun entry => endpointTestName entry.1 entry.2 := by
      rw [List.filter_append, fixed, List.filter_eq_self.mpr isTest]

theorem testMethods_nodup_iff : gem.testMethods.Nodup ↔ gem.SeparateTests := by
  have fixed : fixedTests.Nodup := by decide
  have each : (gem.namedEndpoints.map fun entry => endpointTestName entry.1 entry.2).Nodup ↔
      gem.namedEndpoints.Pairwise fun first second =>
        ¬Overlap (nameParts first) (nameParts second) := by
    rw [List.Nodup, List.pairwise_map]
    simp only [ne_eq, endpointTestName_eq_iff]
  rw [testMethods_eq, List.nodup_append, each]
  constructor
  · rintro ⟨-, apart, free⟩
    refine ⟨apart, ?_⟩
    intro entry member reserved
    exact free _ (endpointTestName_mem_fixedTests.mpr reserved) _
      (List.mem_map.mpr ⟨entry, member, rfl⟩) rfl
  · rintro ⟨apart, free⟩
    refine ⟨fixed, apart, ?_⟩
    rintro name inFixed other inTests rfl
    obtain ⟨entry, member, rfl⟩ := List.mem_map.mp inTests
    exact free entry member (endpointTestName_mem_fixedTests.mp inFixed)

/-- The suite has one test for each endpoint beside the fixed ones, and none of them takes the place
of another exactly when the parts that their names are joined from overlap nowhere. The tests are
those of the source before it is laid out: a name with a line break could write more into the text.
-/
theorem tests_separate_iff {gem : Gem} {files : List File} (accepted : gem.render = .ok files) :
    sourceFile gem.testPath gem.testSuiteSource ∈ files ∧
      gem.testMethods =
        fixedTests ++ gem.namedEndpoints.map (fun entry => endpointTestName entry.1 entry.2) ∧
      (gem.testMethods.Nodup ↔ gem.SeparateTests) := by
  obtain rfl := files_of_render accepted
  exact ⟨gem.testFile_mem, gem.testMethods_eq, gem.testMethods_nodup_iff⟩

def forum : Gem where
  api.nameSetting := some "forum"
  api.resources :=
    (ResourceTable.empty.insert "users"
      { endpoints := [{ name := "list" }, { name := "post" }] }).insert
      "users_posts" { endpoints := [{ name := "list" }, { name := "list_all" }] }

theorem tests_separate_iff_forum : forum.render = .ok forum.files ∧ forum.SeparateTests ∧
    sourceFile forum.testPath forum.testSuiteSource ∈ forum.files ∧
      forum.testMethods = fixedTests ++ ["test_users_list", "test_users_post",
        "test_users_posts_list", "test_users_posts_list_all"] ∧
      forum.testMethods.Nodup := by
  have complete : forum.missingName? = none := by decide +kernel
  have accepted : forum.render = .ok forum.files := render_of_complete complete
  have separate : forum.SeparateTests := ⟨by decide, by decide⟩
  obtain ⟨file, methods, nodup⟩ := tests_separate_iff accepted
  exact ⟨accepted, separate, file, methods.trans (by decide), nodup.mpr separate⟩

def mergedForum : Gem where
  api.nameSetting := some "forum"
  api.resources :=
    (ResourceTable.empty.insert "users" { endpoints := [{ name := "posts_list" }] }).insert
      "users_posts" { endpoints := [{ name := "list" }] }

/-- Within each resource the names are distinct, and still two tests have the same name. -/
theorem exists_replaced_test : mergedForum.render = .ok mergedForum.files ∧
    (∀ entry ∈ mergedForum.resources, (entry.2.endpoints.map Endpoint.name).Nodup) ∧
    mergedForum.testMethods =
      fixedTests ++ ["test_users_posts_list", "test_users_posts_list"] ∧
    ¬mergedForum.testMethods.Nodup := by
  have complete : mergedForum.missingName? = none := by decide +kernel
  have methods : mergedForum.testMethods =
      fixedTests ++ ["test_users_posts_list", "test_users_posts_list"] := by
    rw [testMethods_eq]
    decide
  refine ⟨render_of_complete complete, by decide, methods, ?_⟩
  rw [methods]
  decide

end ClientGem.Gem
