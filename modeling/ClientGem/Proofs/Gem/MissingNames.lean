import ClientGem.Proofs.Gem.Build
import ClientGem.Proofs.Ruby.Name
import Mathlib.Logic.Basic

/-!
Which names a gem cannot do without. Its files are generated unless the API name gives no module
name, or the name of a resource or of an endpoint is blank; of several names that are missing, the
first is reported.
-/

namespace ClientGem.Gem

open Api Output

structure HasNames (name : String) (resource : Resource) : Prop where
  own : Unicode.isBlankText name = false
  endpoints : ∀ endpoint ∈ resource.endpoints, Unicode.isBlankText endpoint.name = false

/-- What is missing first in a resource, with the words that tell it: its own name, or that of an
endpoint, which is told by its number. -/
inductive FirstMissingIn (name : String) (resource : Resource) : MissingName → String → Prop
  | own (blank : Unicode.isBlankText name = true) :
      FirstMissingIn name resource .ofResource "resource name"
  | endpoint {before : List Endpoint} {endpoint : Endpoint} {after : List Endpoint}
      (visible : Unicode.isBlankText name = false)
      (split : resource.endpoints = before ++ endpoint :: after)
      (named : ∀ earlier ∈ before, Unicode.isBlankText earlier.name = false)
      (blank : Unicode.isBlankText endpoint.name = true) :
      FirstMissingIn name resource (.ofEndpoint (before.length + 1) name)
        ("name of endpoint #" ++ toString (before.length + 1) ++ " in resource '" ++ name ++ "'")

/-- There is nothing in the API name that a module could be called by. -/
def HasNoWord (gem : Gem) : Prop :=
  ∀ c ∈ gem.apiName.toList, Ruby.isSeparator c = true

/-- What is missing first in a gem: the name of its module, or what is missing first in the first
resource in which something is. -/
inductive FirstMissing (gem : Gem) : MissingName → String → Prop
  | ofModule (separators : gem.HasNoWord) :
      FirstMissing gem (.ofModule gem.apiName)
        ("api_name '" ++ gem.apiName ++ "' does not yield a module name")
  | inResource {before : List (String × Resource)} {name : String} {resource : Resource}
      {after : List (String × Resource)} {missing : MissingName} {what : String}
      (word : ¬gem.HasNoWord) (split : gem.resources = before ++ (name, resource) :: after)
      (named : ∀ entry ∈ before, HasNames entry.1 entry.2)
      (first : FirstMissingIn name resource missing what) : FirstMissing gem missing what

theorem missingInResource?_eq_none_iff {name : String} {resource : Resource} :
    missingInResource? name resource = none ↔ HasNames name resource := by
  unfold missingInResource?
  split
  · next blank =>
    constructor
    · intro none
      cases none
    · intro named
      rw [named.own] at blank
      cases blank
  · next visible =>
    rw [Option.map_eq_none_iff, List.findIdx?_eq_none_iff]
    exact ⟨fun named => ⟨Bool.eq_false_iff.mpr visible, named⟩, fun named => named.endpoints⟩

/-- The number that is found is that of the first element with the property. -/
theorem findIdx?_eq_some_iff_split {α : Type} {p : α → Bool} {xs : List α} {index : Nat} :
    xs.findIdx? p = some index ↔ ∃ before x after, xs = before ++ x :: after ∧
      before.length = index ∧ (∀ earlier ∈ before, p earlier = false) ∧ p x = true := by
  constructor
  · intro found
    obtain ⟨inside, holds, earlier⟩ := List.findIdx?_eq_some_iff_getElem.mp found
    refine ⟨xs.take index, xs[index], xs.drop (index + 1), ?_, ?_, ?_, holds⟩
    · rw [List.getElem_cons_drop, List.take_append_drop]
    · rw [List.length_take]
      omega
    · intro x member
      obtain ⟨place, bound, rfl⟩ := List.mem_iff_getElem.mp member
      rw [List.length_take] at bound
      rw [List.getElem_take]
      simpa using earlier place (by omega)
  · intro ⟨before, x, after, split, length, earlier, holds⟩
    rw [split, List.findIdx?_append, List.findIdx?_eq_none_iff.mpr earlier, Option.none_or,
      List.findIdx?_cons, holds]
    simp [length]

theorem missingInResource?_eq_some_iff {name : String} {resource : Resource}
    {missing : MissingName} :
    missingInResource? name resource = some missing ↔
      ∃ what, FirstMissingIn name resource missing what := by
  unfold missingInResource?
  split
  · next blank =>
    constructor
    · intro same
      obtain rfl := Option.some.inj same
      exact ⟨_, .own blank⟩
    · intro ⟨_, first⟩
      cases first with
      | own => rfl
      | endpoint visible =>
        rw [visible] at blank
        cases blank
  · next visible =>
    have visible : Unicode.isBlankText name = false := Bool.eq_false_iff.mpr visible
    constructor
    · intro same
      obtain ⟨index, found, rfl⟩ := Option.map_eq_some_iff.mp same
      obtain ⟨before, endpoint, after, split, rfl, named, blank⟩ :=
        findIdx?_eq_some_iff_split.mp found
      exact ⟨_, .endpoint visible split named blank⟩
    · intro ⟨_, first⟩
      cases first with
      | own blank =>
        rw [visible] at blank
        cases blank
      | endpoint _ split named blank =>
        rw [findIdx?_eq_some_iff_split.mpr ⟨_, _, _, split, rfl, named, blank⟩]
        rfl

theorem isEmpty_moduleName_iff {gem : Gem} : gem.moduleName.isEmpty = true ↔ gem.HasNoWord := by
  rw [String.isEmpty_iff]
  exact Ruby.moduleName_eq_empty_iff gem.apiName

theorem missingName?_eq_some_iff {gem : Gem} {missing : MissingName} :
    gem.missingName? = some missing ↔ ∃ what, FirstMissing gem missing what := by
  unfold missingName?
  split
  · next empty =>
    have separators := isEmpty_moduleName_iff.mp empty
    constructor
    · intro same
      obtain rfl := Option.some.inj same
      exact ⟨_, .ofModule separators⟩
    · intro ⟨_, first⟩
      cases first with
      | ofModule => rfl
      | inResource word => exact absurd separators word
  · next nonempty =>
    have word : ¬gem.HasNoWord := mt isEmpty_moduleName_iff.mpr nonempty
    rw [List.findSome?_eq_some_iff]
    constructor
    · intro ⟨before, ⟨name, resource⟩, after, split, found, earlier⟩
      obtain ⟨what, first⟩ := missingInResource?_eq_some_iff.mp found
      exact ⟨what, .inResource word split
        (fun entry member => missingInResource?_eq_none_iff.mp (earlier entry member)) first⟩
    · intro ⟨_, first⟩
      cases first with
      | ofModule separators => exact absurd separators word
      | inResource _ split named first =>
        exact ⟨_, _, _, split, missingInResource?_eq_some_iff.mpr ⟨_, first⟩,
          fun entry member => missingInResource?_eq_none_iff.mpr (named entry member)⟩

theorem FirstMissing.message {gem : Gem} {missing : MissingName} {what : String}
    (first : FirstMissing gem missing what) :
    missing.message = "Missing configuration: " ++ what := by
  cases first with
  | ofModule => rfl
  | inResource _ _ _ first =>
    cases first with
    | own => rfl
    | endpoint => rfl

theorem missingName?_eq_none_iff {gem : Gem} : gem.missingName? = none ↔
    ¬gem.HasNoWord ∧ ∀ entry ∈ gem.resources, HasNames entry.1 entry.2 := by
  unfold missingName?
  split
  · next empty => simp [isEmpty_moduleName_iff.mp empty]
  · next nonempty =>
    have word : ¬gem.HasNoWord := mt isEmpty_moduleName_iff.mpr nonempty
    rw [List.findSome?_eq_none_iff]
    constructor
    · intro none
      exact ⟨word, fun entry member => missingInResource?_eq_none_iff.mp (none entry member)⟩
    · intro ⟨_, named⟩ entry member
      exact missingInResource?_eq_none_iff.mpr (named entry member)

def LacksName (gem : Gem) : Prop :=
  gem.HasNoWord ∨ (∃ name ∈ gem.resourceNames, Unicode.isBlankText name = true) ∨
    ∃ entry ∈ gem.resources, ∃ endpoint ∈ entry.2.endpoints,
      Unicode.isBlankText endpoint.name = true

theorem not_lacksName_iff {gem : Gem} :
    ¬gem.LacksName ↔ ¬gem.HasNoWord ∧ ∀ entry ∈ gem.resources, HasNames entry.1 entry.2 := by
  constructor
  · intro complete
    refine ⟨fun separators => complete (.inl separators), fun entry member => ⟨?_, ?_⟩⟩
    · rw [Bool.eq_false_iff]
      intro blank
      exact complete (.inr (.inl ⟨entry.1, List.mem_map_of_mem member, blank⟩))
    · intro endpoint inEndpoints
      rw [Bool.eq_false_iff]
      intro blank
      exact complete (.inr (.inr ⟨entry, member, endpoint, inEndpoints, blank⟩))
  · intro ⟨word, named⟩ lacks
    rcases lacks with separators | ⟨name, member, blank⟩ | ⟨entry, member, endpoint, inside, blank⟩
    · exact word separators
    · obtain ⟨entry, inResources, rfl⟩ := List.mem_map.mp member
      rw [(named entry inResources).own] at blank
      cases blank
    · rw [(named entry member).endpoints endpoint inside] at blank
      cases blank

theorem length_files (gem : Gem) : gem.files.length = 13 + gem.resources.length := by
  have base : gem.baseSourceFiles.length = 8 := rfl
  have ofResources : gem.resourceFiles.length = gem.resources.length := List.length_map ..
  have documents : gem.documents.length = 2 := rfl
  have tests : gem.testFiles.length = 2 := rfl
  unfold files
  simp only [List.length_append, List.length_singleton, base, ofResources, documents, tests]
  omega

theorem render_eq_error_iff {gem : Gem} {missing : MissingName} :
    gem.render = .error missing ↔ gem.missingName? = some missing := by
  cases named : gem.missingName? with
  | none => simp [render_of_complete named]
  | some other => simp [render_of_missing named]

structure Rendered (gem : Gem) : Prop where
  refused_iff : (∃ missing, gem.render = .error missing) ↔ gem.LacksName
  accepted : ¬gem.LacksName →
    ∃ files, gem.render = .ok files ∧ files.length = 13 + gem.resources.length
  reported : ∀ missing, gem.render = .error missing ↔ ∃ what, FirstMissing gem missing what
  told : ∀ missing what, FirstMissing gem missing what →
    missing.message = "Missing configuration: " ++ what

/-- A gem is refused exactly when a name is missing. Then the first that is missing is reported;
otherwise there are thirteen files and one for each resource. -/
theorem render_decided (gem : Gem) : Rendered gem where
  refused_iff := by
    rw [← not_iff_not, not_lacksName_iff, ← missingName?_eq_none_iff, not_exists,
      Option.eq_none_iff_forall_ne_some]
    simp only [render_eq_error_iff, ne_eq]
  accepted complete := by
    have named := missingName?_eq_none_iff.mpr (not_lacksName_iff.mp complete)
    exact ⟨gem.files, render_of_complete named, length_files gem⟩
  reported missing := render_eq_error_iff.trans missingName?_eq_some_iff
  told _ _ := FirstMissing.message

-- The first resource counts, and in it the first endpoint without a name.
example : (Gem.mk {
    nameSetting := some "-x"
    resources := (ResourceTable.empty.insert "a" {
      endpoints := [{ name := "b" }, { name := "\t" }, { name := "" }] }).insert "" {}
    }).missingName? = some (.ofEndpoint 2 "a") := by
  decide +kernel

end ClientGem.Gem
