import ClientGem.Proofs.Gem.Passages
import ClientGem.Proofs.PathTemplate.Interpolation
import ClientGem.Proofs.PathTemplate.Substitution
import Mathlib.Data.List.TakeWhile

/-!
The address of an endpoint, in the three places where it is written. The method interpolates a path;
the test stubs the address at which this path is found when every placeholder has the sample value,
and the reference shows the address with the placeholders themselves.
-/

namespace ClientGem.Gem

open Api Ruby PathTemplate

/-- A base address and the text of a path, with one slash between the two. -/
def addressAt (base : String) (path : List Char) : String :=
  base ++ "/" ++ String.ofList (path.dropWhile (· == '/'))

/-- The segments of a path, as the method of an endpoint interpolates it, give its address wherever
the files of the gem have it. -/
structure SameAddress (gem : Gem) (name : String) (resource : Resource) (endpoint : Endpoint)
    (base : String) (segments : List Segment) : Prop where
  /-- The base is the configured address without the slashes at its end. -/
  slashes : ∃ count, gem.api.baseUrl.toList = base.toList ++ List.replicate count '/'
  noSlash : base.toList.getLast? ≠ some '/'
  requested : HasLines (gem.resourceSource name resource).layout
    (gem.methodLines (signature endpoint) (interpolate endpoint.path))
  read : StringBody.read (interpolate endpoint.path).toList = some segments
  stubbed : ∃ text, HasLines gem.testSuiteSource.layout
      [ "  def " ++ endpointTestName name endpoint,
        "    response_body = " ++
          sampleBody endpoint.isCollection (resource.format gem.api.responseFormat),
        "    stub_request(:" ++ endpoint.verb.name ++ ", \"" ++ text ++ "\")" ] ∧
    StringBody.read text.toList =
      some [.literal (addressAt base (fill (fun _ => sampleValue.toList) segments)).toList]
  /-- The address is in the section whose example is a call of the method on this resource. -/
  documented : HasLines gem.reference (referenceLines endpoint
    (addressAt base (fill placeholderText segments)) (callOf name endpoint Parameter.name))
  written : ∀ files, gem.render = .ok files → gem.filesAbout name resource ⊆ files

theorem read_escape {s : String} (nonempty : s ≠ "") :
    StringBody.read (escape s).toList = some [.literal s.toList] := by
  have ne_nil : s.toList ≠ [] := by simpa using nonempty
  have empty : StringBody.read [] = some [] := rfl
  have read := StringBody.read_escapeChars s.toList []
  rw [List.append_nil, empty, Option.map_some, StringBody.addText_cons ne_nil (by simp)] at read
  rw [escape, String.toList_ofList, read]

theorem withoutTrailingSlashes_spec (url : String) :
    (∃ count, url.toList = (Config.withoutTrailingSlashes url).toList ++ List.replicate count '/') ∧
      (Config.withoutTrailingSlashes url).toList.getLast? ≠ some '/' := by
  let reversed := url.toList.reverse
  have base : (Config.withoutTrailingSlashes url).toList =
      (reversed.dropWhile (· == '/')).reverse := String.toList_ofList
  constructor
  · have slashes : ∀ c ∈ reversed.takeWhile (· == '/'), c = '/' :=
      fun c member => by simpa using List.mem_takeWhile_imp member
    refine ⟨(reversed.takeWhile (· == '/')).length, ?_⟩
    rw [base, ← List.reverse_replicate, ← List.eq_replicate_of_mem slashes, ← List.reverse_append,
      List.takeWhile_append_dropWhile, List.reverse_reverse]
  · rw [base, List.getLast?_reverse]
    intro head
    have kept := List.head?_dropWhile_not (· == '/') reversed
    rw [head] at kept
    exact absurd kept (by decide)

/-- Every parameter of a path can have the sample value, which is a part of none of their names. -/
theorem canSubstitute_sampleValue {path : String}
    (unsampled : ∀ name ∈ params path, ¬sampleValue.toList <:+: name.toList) :
    CanSubstitute (parse path) ((params path).map fun name => (name, sampleValue)) where
  isName := by
    intro pair member
    obtain ⟨name, inParams, rfl⟩ := List.mem_map.mp member
    exact isName_of_mem_params inParams
  no_open := by
    intro pair member
    obtain ⟨name, -, rfl⟩ := List.mem_map.mp member
    simp [sampleValue]
  no_close := by
    intro pair member
    obtain ⟨name, -, rfl⟩ := List.mem_map.mp member
    simp [sampleValue]
  outside := by
    intro text _ _ pair member other member'
    obtain ⟨name, -, rfl⟩ := List.mem_map.mp member
    obtain ⟨name', inParams, rfl⟩ := List.mem_map.mp member'
    exact unsampled name' inParams

theorem toList_substitute_sampleValue {path : String}
    (unsampled : ∀ name ∈ params path, ¬sampleValue.toList <:+: name.toList) :
    (substitute path ((params path).map fun name => (name, sampleValue))).toList =
      fill (fun _ => sampleValue.toList) (parse path) := by
  rw [toList_substitute (canSubstitute_sampleValue unsampled)]
  apply fill_congr
  intro name member
  have given : firstValue ((params path).map fun name => (name, sampleValue)) name =
      some sampleValue.toList := by
    have inParams : String.ofList name ∈ params path := mem_params.mpr (by simpa using member)
    cases found : (params path).find? (·.toList = name) with
    | none => exact absurd (List.find?_eq_none.mp found _ inParams) (by simp)
    | some other =>
      have listed : ((params path).map fun name => (name, sampleValue)).find? (·.1.toList = name) =
          some (other, sampleValue) := by
        rw [List.find?_map]
        exact congrArg (Option.map _) found
      rw [firstValue, listed]
      rfl
  rw [knownText, given]
  rfl

theorem address_eq (gem : Gem) (path : String) : gem.address path =
    addressAt (Config.withoutTrailingSlashes gem.api.baseUrl) path.toList :=
  rfl

theorem testSuite_hasLines_stub {gem : Gem} {name : String} {resource : Resource}
    {endpoint : Endpoint} (named : (name, resource) ∈ gem.resources)
    (member : endpoint ∈ resource.endpoints) : HasLines gem.testSuiteSource.layout
      [ "  def " ++ endpointTestName name endpoint,
        "    response_body = " ++
          sampleBody endpoint.isCollection (resource.format gem.api.responseFormat),
        "    stub_request(:" ++ endpoint.verb.name ++ ", \"" ++
          escape (gem.testAddress endpoint) ++ "\")" ] := by
  have body : "    " ++ ("response_body = " ++
      sampleBody endpoint.isCollection (resource.format gem.api.responseFormat)) =
        "    response_body = " ++
          sampleBody endpoint.isCollection (resource.format gem.api.responseFormat) := by
    apply String.toList_inj.mp
    simp
  have stub : "    " ++ ("stub_request(:" ++ endpoint.verb.name ++ ", " ++
      stringLiteral (gem.testAddress endpoint) ++ ")") = "    stub_request(:" ++
        endpoint.verb.name ++ ", \"" ++ escape (gem.testAddress endpoint) ++ "\")" := by
    apply String.toList_inj.mp
    simp [stringLiteral]
  refine HasLines.of_infix (List.IsPrefix.isInfix ?_) (testSuite_hasLines named member)
  rw [testLines, stubLines, ← body, ← stub]
  simp

/-- The test of an endpoint stubs, and the reference shows, the address of the path that the method
interpolates: with the sample value, and with the names, in place of the placeholders. No name may
hold the sample value, or one could be made of it where braces are open. -/
theorem same_address (gem : Gem) {name : String} {resource : Resource} {endpoint : Endpoint}
    (named : (name, resource) ∈ gem.resources) (member : endpoint ∈ resource.endpoints)
    (unsampled : ∀ name ∈ params endpoint.path, ¬sampleValue.toList <:+: name.toList) :
    ∃ base segments, SameAddress gem name resource endpoint base segments := by
  have base := withoutTrailingSlashes_spec gem.api.baseUrl
  have tested : gem.testAddress endpoint =
      addressAt (Config.withoutTrailingSlashes gem.api.baseUrl)
        (fill (fun _ => sampleValue.toList) (parse endpoint.path)) := by
    rw [testAddress, address_eq, toList_substitute_sampleValue unsampled]
  have nonempty : gem.testAddress endpoint ≠ "" := by
    rw [tested]
    simp [addressAt]
  have shown : gem.address endpoint.path =
      addressAt (Config.withoutTrailingSlashes gem.api.baseUrl)
        (fill placeholderText (parse endpoint.path)) := by
    rw [address_eq, fill_placeholderText]
  exact ⟨Config.withoutTrailingSlashes gem.api.baseUrl, parse endpoint.path, {
    slashes := base.1
    noSlash := base.2
    requested := resourceSource_hasLines gem name member
    read := read_interpolate endpoint.path
    stubbed := ⟨_, testSuite_hasLines_stub named member, by rw [read_escape nonempty, tested]⟩
    documented := shown ▸ reference_hasLines_call named member
    written := fun _ => filesAbout_subset named }⟩

/-- Braces stand open before two placeholders, and one of these is there twice. -/
def nested : Endpoint where
  name := "show"
  pathSetting := some "//\x7b\x7buser\x7d\x7d/x\x7b\x7bid\x7d12/\x7b\x7d\x7buser\x7d\"#"

def nestedUsers : Resource where
  endpoints := [nested]
  formatOverride := some { itemRoot := some "user" }

def nestedGem : Gem where
  api.baseUrlSetting := some "https://shop.test//"
  api.resources := { entries := [("users", nestedUsers)], names_nodup := by decide }

theorem same_address_nested :
    (("users", nestedUsers) ∈ nestedGem.resources ∧ nested ∈ nestedUsers.endpoints ∧
      ∀ name ∈ params nested.path, ¬sampleValue.toList <:+: name.toList) ∧
        ∃ base segments, SameAddress nestedGem "users" nestedUsers nested base segments := by
  have named : ("users", nestedUsers) ∈ nestedGem.resources := .head _
  have member : nested ∈ nestedUsers.endpoints := .head _
  have unsampled : ∀ name ∈ params nested.path, ¬sampleValue.toList <:+: name.toList := by
    have names : params nested.path = ["user", "id"] := by decide +kernel
    rw [names]
    decide
  exact ⟨⟨named, member, unsampled⟩, same_address nestedGem named member unsampled⟩

end ClientGem.Gem
