import ClientGem.Proofs.Gem.Paths
import ClientGem.Proofs.Ruby.Definitions
import Mathlib.Data.List.Nodup

/-!
What the client and the resources of a gem define. The names of classes and methods are made from
the names of resources and endpoints as they are given, so that two definitions can fall together
although the names of the resources are distinct.
-/

namespace ClientGem.Gem

open Api Output Ruby

def usedSources (gem : Gem) : List Source :=
  gem.clientSource :: gem.resources.map fun (name, resource) => gem.resourceSource name resource

def usedClasses (gem : Gem) : List ClassBody :=
  gem.usedSources.flatMap (Source.classes [])

/-- No class is declared a second time, and in no class a method is defined a second time. -/
def SeparateDefinitions (gem : Gem) : Prop :=
  (gem.usedClasses.map ClassBody.path).Nodup ∧
    ∀ body ∈ gem.usedClasses, (methodNames body.items).Nodup

/-- The names of a gem stay apart from each other, and from those that every class defines, when
they become names of classes and methods. -/
structure SeparateNames (gem : Gem) : Prop where
  /-- Names that differ only in the case of their first letter become the same class. -/
  classes : (gem.resourceNames.map fun name => leadingName (className name)).Nodup
  accessors : (gem.resourceNames.map leadingName).Nodup
  accessors_free : ∀ name ∈ gem.resourceNames,
    leadingName name ≠ "configuration" ∧ leadingName name ≠ "initialize"
  methods : ∀ entry ∈ gem.resources,
    (entry.2.endpoints.map fun endpoint => leadingName endpoint.name).Nodup
  methods_free : ∀ entry ∈ gem.resources, ∀ endpoint ∈ entry.2.endpoints,
    leadingName endpoint.name ≠ "client" ∧ leadingName endpoint.name ≠ "initialize"

variable (gem : Gem)

theorem resourceReader_defines (name : String) : (resourceReader name).Defines (leadingName name) :=
  defines_block name _

theorem endpointMethod_defines (moduleName : String) (format : ResponseFormat)
    (endpoint : Endpoint) :
    (endpointMethod moduleName format endpoint).Defines (leadingName endpoint.name) := by
  rw [← leadingName_applied endpoint.name (declarations endpoint)]
  exact defines_block _ _

def clientMembers : List Item :=
  members "attr_reader :configuration"
    ("initialize(configuration = " ++ gem.moduleName ++ ".configuration)")
    ["@configuration = configuration"] (gem.resourceNames.map resourceReader)

theorem methodNames_clientMembers : methodNames gem.clientMembers =
    "configuration" :: "initialize" :: gem.resourceNames.map leadingName := by
  have first : leadingName ("initialize(configuration = " ++ gem.moduleName ++ ".configuration)") =
      "initialize" := by
    have text : ("initialize(configuration = " ++ gem.moduleName ++ ".configuration)").toList =
        "initialize".toList ++ '(' ::
          ("configuration = " ++ gem.moduleName ++ ".configuration)").toList := by
      simp
    rw [leadingName, text, leadingChars_append_paren]
    decide
  rw [clientMembers, methodNames_members, first, methodNames_map resourceReader_defines]
  rfl

theorem classes_clientSource : Source.classes [] gem.clientSource =
    [⟨[leadingName gem.moduleName, "Client"], gem.clientMembers⟩] := by
  have source : gem.clientSource = Source.preamble ++
      [.block ("module " ++ gem.moduleName)
        [.block ("class " ++ "Client") gem.clientMembers]] := rfl
  rw [source, classes_preamble, classes_singleton, classes_module, classes_singleton, classes_class,
    clientMembers, classes_members _ _ _ _ (classes_map resourceReader_defines _ _)]
  rfl

def resourceMembers (resource : Resource) : List Item :=
  members "attr_reader :client" "initialize(client)"
    ["@client = client", "@config = client.configuration"]
    (resource.endpoints.map
      (endpointMethod gem.moduleName (resource.format gem.api.responseFormat)))

theorem methodNames_resourceMembers (resource : Resource) :
    methodNames (gem.resourceMembers resource) = "client" :: "initialize" ::
      resource.endpoints.map fun endpoint => leadingName endpoint.name := by
  rw [resourceMembers, methodNames_members, methodNames_map (endpointMethod_defines _ _)]
  rfl

theorem classes_resourceSource (name : String) (resource : Resource) :
    Source.classes [] (gem.resourceSource name resource) =
      [⟨[leadingName gem.moduleName, "Resources", leadingName (className name)],
        gem.resourceMembers resource⟩] := by
  have source : gem.resourceSource name resource = Source.preamble ++
      [.block ("module " ++ gem.moduleName) [.block ("module " ++ "Resources")
        [.block ("class " ++ className name) (gem.resourceMembers resource)]]] := rfl
  rw [source, classes_preamble, classes_singleton, classes_module, classes_singleton,
    classes_module, classes_singleton, classes_class, resourceMembers,
    classes_members _ _ _ _ (classes_map (endpointMethod_defines _ _) _ _)]
  rfl

theorem usedClasses_eq : gem.usedClasses =
    ⟨[leadingName gem.moduleName, "Client"], gem.clientMembers⟩ ::
      gem.resources.map fun entry =>
        ⟨[leadingName gem.moduleName, "Resources", leadingName (className entry.1)],
          gem.resourceMembers entry.2⟩ := by
  rw [usedClasses, usedSources, List.flatMap_cons, classes_clientSource, List.flatMap_map]
  simp only [classes_resourceSource]
  rw [List.singleton_append, List.map_eq_flatMap]

theorem nodup_usedClasses : (gem.usedClasses.map ClassBody.path).Nodup ↔
    (gem.resourceNames.map fun name => leadingName (className name)).Nodup := by
  let path (name : String) := [leadingName gem.moduleName, "Resources", name]
  have paths : gem.usedClasses.map ClassBody.path = [leadingName gem.moduleName, "Client"] ::
      (gem.resourceNames.map fun name => leadingName (className name)).map path := by
    rw [usedClasses_eq, List.map_cons, List.map_map, List.map_map, resourceNames,
      ResourceTable.names, List.map_map]
    rfl
  have apart : [leadingName gem.moduleName, "Client"] ∉
      (gem.resourceNames.map fun name => leadingName (className name)).map path := by
    -- A resource stands one module deeper than the client.
    intro member
    obtain ⟨name, -, same⟩ := List.mem_map.mp member
    cases congrArg List.length same
  have injective : Function.Injective path := by
    intro first second same
    simpa [path] using same
  rw [paths, List.nodup_cons, and_iff_right apart, List.nodup_map_iff injective]

theorem nodup_cons_cons {α : Type} {first second : α} (names : List α) (apart : first ≠ second) :
    (first :: second :: names).Nodup ↔
      names.Nodup ∧ ∀ name ∈ names, name ≠ first ∧ name ≠ second := by
  rw [List.nodup_cons, List.nodup_cons, List.mem_cons, not_or]
  constructor
  · rintro ⟨⟨_, noFirst⟩, noSecond, nodup⟩
    refine ⟨nodup, ?_⟩
    intro name member
    exact ⟨fun same => noFirst (same ▸ member), fun same => noSecond (same ▸ member)⟩
  · rintro ⟨nodup, free⟩
    exact ⟨⟨apart, fun member => (free first member).1 rfl⟩,
      fun member => (free second member).2 rfl, nodup⟩

theorem nodup_clientMembers : (methodNames gem.clientMembers).Nodup ↔
    (gem.resourceNames.map leadingName).Nodup ∧ ∀ name ∈ gem.resourceNames,
      leadingName name ≠ "configuration" ∧ leadingName name ≠ "initialize" := by
  rw [methodNames_clientMembers, nodup_cons_cons _ (by decide), List.forall_mem_map]

theorem nodup_resourceMembers (resource : Resource) :
    (methodNames (gem.resourceMembers resource)).Nodup ↔
    (resource.endpoints.map fun endpoint => leadingName endpoint.name).Nodup ∧
      ∀ endpoint ∈ resource.endpoints,
        leadingName endpoint.name ≠ "client" ∧ leadingName endpoint.name ≠ "initialize" := by
  rw [methodNames_resourceMembers, nodup_cons_cons _ (by decide), List.forall_mem_map]

theorem separateDefinitions_iff : gem.SeparateDefinitions ↔ gem.SeparateNames := by
  unfold SeparateDefinitions
  rw [nodup_usedClasses, usedClasses_eq, List.forall_mem_cons, List.forall_mem_map]
  simp only [nodup_clientMembers, nodup_resourceMembers]
  constructor
  · rintro ⟨classes, ⟨accessors, accessors_free⟩, methods⟩
    exact {
      classes := classes
      accessors := accessors
      accessors_free := accessors_free
      methods := fun entry member => (methods entry member).1
      methods_free := fun entry member => (methods entry member).2 }
  · intro separate
    refine ⟨separate.classes, ⟨separate.accessors, separate.accessors_free⟩, ?_⟩
    intro entry member
    exact ⟨separate.methods entry member, separate.methods_free entry member⟩

/-- In the files of the client and of the resources nothing is defined twice exactly when the names
that the definitions are made from stay apart. The definitions are those of the sources before they
are laid out: a name with a line break could write more into the text. -/
theorem definitions_separate_iff {gem : Gem} {files : List File}
    (accepted : gem.render = .ok files) :
    sourceFile (gem.libraryPath "client") gem.clientSource ∈ files ∧
      (∀ entry ∈ gem.resources,
        sourceFile (gem.resourcePath entry.1) (gem.resourceSource entry.1 entry.2) ∈ files) ∧
      (gem.SeparateDefinitions ↔ gem.SeparateNames) := by
  obtain rfl := files_of_render accepted
  exact ⟨gem.clientFile_mem, fun _ member => gem.resourceFile_mem member,
    gem.separateDefinitions_iff⟩

def blog : Gem where
  api.nameSetting := some "blog"
  api.resources :=
    (ResourceTable.empty.insert "users"
      { endpoints := [{ name := "list" }, { name := "find" }] }).insert
      "posts" { endpoints := [{ name := "list" }, { name := "create", verb := .post }] }

theorem definitions_separate_iff_blog : blog.render = .ok blog.files ∧ blog.SeparateNames ∧
    sourceFile (blog.libraryPath "client") blog.clientSource ∈ blog.files ∧
      (∀ entry ∈ blog.resources,
        sourceFile (blog.resourcePath entry.1) (blog.resourceSource entry.1 entry.2) ∈ blog.files) ∧
      blog.SeparateDefinitions := by
  have complete : blog.missingName? = none := by decide +kernel
  have accepted : blog.render = .ok blog.files := render_of_complete complete
  have separate : blog.SeparateNames := {
    classes := by decide +kernel
    accessors := by decide
    accessors_free := by decide
    methods := by decide
    methods_free := by decide }
  obtain ⟨client, resources, same⟩ := definitions_separate_iff accepted
  exact ⟨accepted, separate, client, resources, same.mpr separate⟩

def twoCased : Gem where
  api.nameSetting := some "shop"
  api.resources :=
    (ResourceTable.empty.insert "users" { endpoints := [{ name := "list" }] }).insert
      "Users" { endpoints := [{ name := "all" }] }

/-- Both resources become the same class. -/
theorem exists_reopened_class : twoCased.render = .ok twoCased.files ∧
    twoCased.usedClasses.map ClassBody.path = [["Shop", "Client"],
      ["Shop", "Resources", "Users"], ["Shop", "Resources", "Users"]] ∧
    ¬twoCased.SeparateDefinitions := by
  have complete : twoCased.missingName? = none := by decide +kernel
  have paths : twoCased.usedClasses.map ClassBody.path = [["Shop", "Client"],
      ["Shop", "Resources", "Users"], ["Shop", "Resources", "Users"]] := by
    rw [usedClasses_eq, List.map_cons, List.map_map]
    decide +kernel
  refine ⟨render_of_complete complete, paths, ?_⟩
  rintro ⟨nodup, -⟩
  rw [paths] at nodup
  exact absurd nodup (by decide)

end ClientGem.Gem
