import ClientGem.Proofs.Gem.MethodAgreement
import ClientGem.Proofs.Gem.Passages

/-!
The calls of a generated method that are shown to its users and made by its test. Each has the
arguments that the method declares, of the same kinds and in the same order.
-/

namespace ClientGem.Gem

open Api Ruby PathTemplate

/-- Something for every distinct placeholder of the path, then something for the query and for the
body, where the endpoint takes them. -/
def inOrder {α : Type} (endpoint : Endpoint) (ofName : String → α) (query body : α) : List α :=
  (((parse endpoint.path).filterMap Segment.name?).eraseDups.map (ofName ∘ String.ofList)) ++
    (if endpoint.params then [query] else []) ++ (if endpoint.verb.hasBody then [body] else [])

inductive ArgumentKind where
  | placeholder
  | query
  | body
deriving DecidableEq

def declarationKind (declaration : String) : ArgumentKind :=
  if declaration = "params = \x7b\x7d" then .query
  else if declaration = "body = \x7b\x7d" then .body
  else .placeholder

/-- What an argument made up for an example is for: a query asks for a page, and a body gives a
name. -/
def exampleKind (argument : String) : ArgumentKind :=
  if "\x7b page: ".toList <+: argument.toList then .query
  else if "\x7b name: ".toList <+: argument.toList then .body
  else .placeholder

/-- A call as it is written: the arguments in parentheses behind what is called, with a comma and a
blank between two of them, and no parentheses where there are no arguments. -/
def callText (callee : String) : List String → String
  | [] => callee
  | first :: rest => callee ++ "(" ++ first ++ String.join (rest.map (", " ++ ·)) ++ ")"

def HasParentheses (callee call : String) : Prop :=
  (callee ++ "(").toList <+: call.toList

def clientMethod (name : String) (endpoint : Endpoint) : String :=
  "client." ++ name ++ "." ++ endpoint.name

def shownArguments (endpoint : Endpoint) : List String :=
  inOrder endpoint (fun _ => "123") "\x7b page: 1 \x7d"
    (if endpoint.verb = .post then "\x7b name: \"value\" \x7d"
      else "\x7b name: \"new value\" \x7d")

def testedArguments (endpoint : Endpoint) : List String :=
  inOrder endpoint (fun _ => "\"123\"") "\x7b page: 1 \x7d" "\x7b name: \"Test\" \x7d"

structure CallAgrees (name : String) (endpoint : Endpoint) (arguments : List String) : Prop where
  sameLength : arguments.length = (declarations endpoint).length
  parenthesized :
    HasParentheses (clientMethod name endpoint) (callText (clientMethod name endpoint) arguments) ↔
      HasParentheses ("def " ++ endpoint.name)
        (callText ("def " ++ endpoint.name) (declarations endpoint))

/-- The introduction shows a call of the endpoint in its entry, among the calls of the first
endpoint of each resource, and where errors are handled if there is no endpoint before it. -/
structure ShownInReadme (gem : Gem) (name : String) (resource : Resource) (endpoint : Endpoint)
    (call : String) : Prop where
  overview : HasLines gem.readme (overviewLines endpoint call)
  usage : resource.endpoints.head? = some endpoint → HasLines gem.readme
    ["", "# " ++ className name ++ " - " ++ endpoint.name, "response = " ++ call]
  errorGuide : resource.endpoints.head? = some endpoint → ∀ before after,
    gem.resources = before ++ (name, resource) :: after →
      (∀ entry ∈ before, entry.2.endpoints = []) → HasLines gem.readme
        ["begin", "  response = " ++ call, "rescue " ++ gem.moduleName ++ "::Error => e"]

/-- The header of the method of an endpoint, and its calls in the reference, in the introduction and
in the test, all in the files of the gem. -/
structure CallAgreement (gem : Gem) (name : String) (resource : Resource) (endpoint : Endpoint) :
    Prop where
  declared : declarations endpoint = inOrder endpoint id "params = \x7b\x7d" "body = \x7b\x7d"
  kinds : (declarations endpoint).map declarationKind =
    inOrder endpoint (fun _ => .placeholder) .query .body
  defined : HasLines (gem.resourceSource name resource).layout (gem.methodLines
    (callText ("def " ++ endpoint.name) (declarations endpoint)) (interpolate endpoint.path))
  /-- The reference shows the names of the parameters, without what they default to. -/
  documented : HasLines gem.reference (referenceLines endpoint (gem.address endpoint.path)
    (callText (clientMethod name endpoint) ((declarations endpoint).map declaredName)))
  names : (declarations endpoint).map declaredName = inOrder endpoint id "params" "body"
  shown : ShownInReadme gem name resource endpoint
    (callText (clientMethod name endpoint) (shownArguments endpoint))
  tested : HasLines gem.testSuiteSource.layout
    (gem.testLines name (resource.format gem.api.responseFormat) endpoint
      (callText (clientMethod name endpoint) (testedArguments endpoint)))
  sameKinds : ∀ arguments ∈ [shownArguments endpoint, testedArguments endpoint],
    arguments.map exampleKind = (declarations endpoint).map declarationKind
  agrees : ∀ arguments ∈ [(declarations endpoint).map declaredName, shownArguments endpoint,
    testedArguments endpoint], CallAgrees name endpoint arguments
  written : ∀ files, gem.render = .ok files → gem.filesAbout name resource ⊆ files

theorem inOrder_eq {α : Type} (endpoint : Endpoint) (ofName : String → α) (query body : α) :
    inOrder endpoint ofName query body = (params endpoint.path).map ofName ++
      ((if endpoint.params then [query] else []) ++
        (if endpoint.verb.hasBody then [body] else [])) := by
  have names : params endpoint.path =
      ((parse endpoint.path).filterMap Segment.name?).eraseDups.map String.ofList := by
    rw [params, placeholderNames, firstOccurrences_eq_eraseDups]
    simp
  rw [inOrder, names, List.map_map, List.append_assoc]

theorem map_parameters {α : Type} (endpoint : Endpoint) (f : Parameter → α) :
    (parameters endpoint).map f = inOrder endpoint (f ∘ .path) (f .query) (f .body) := by
  rw [inOrder_eq, parameters, List.append_assoc, List.map_append, map_chosen, List.map_map]

theorem map_inOrder {α β : Type} (endpoint : Endpoint) (f : α → β) (ofName : String → α)
    (query body : α) : (inOrder endpoint ofName query body).map f =
      inOrder endpoint (f ∘ ofName) (f query) (f body) := by
  rw [inOrder_eq, inOrder_eq, List.map_append, map_chosen, List.map_map]

theorem inOrder_congr {α : Type} {endpoint : Endpoint} {ofName other : String → α}
    (same : ∀ name ∈ params endpoint.path, ofName name = other name) (query body : α) :
    inOrder endpoint ofName query body = inOrder endpoint other query body := by
  rw [inOrder_eq, inOrder_eq, List.map_congr_left same]

theorem declarations_inOrder (endpoint : Endpoint) :
    declarations endpoint = inOrder endpoint id "params = \x7b\x7d" "body = \x7b\x7d" :=
  map_parameters endpoint Parameter.declaration

theorem declarationKind_of_mem_params {path name : String} (member : name ∈ params path) :
    declarationKind name = .placeholder := by
  have other (declaration : String) (brace : '\x7b' ∈ declaration.toList) : name ≠ declaration := by
    rintro rfl
    exact not_mem_params path name brace member
  rw [declarationKind, if_neg (other _ (by decide)), if_neg (other _ (by decide))]

theorem kinds_declarations (endpoint : Endpoint) : (declarations endpoint).map declarationKind =
    inOrder endpoint (fun _ => .placeholder) .query .body := by
  rw [declarations_inOrder, map_inOrder]
  exact inOrder_congr (fun _ => declarationKind_of_mem_params) _ _

theorem declaredNames_inOrder (endpoint : Endpoint) :
    (declarations endpoint).map declaredName = inOrder endpoint id "params" "body" := by
  rw [declarations_inOrder, map_inOrder]
  have query : declaredName "params = \x7b\x7d" = "params" := by decide
  have body : declaredName "body = \x7b\x7d" = "body" := by decide
  rw [query, body]
  exact inOrder_congr (fun _ => declaredName_of_mem_params) _ _

theorem applied_eq_callText (callee : String) (arguments : List String) :
    applied callee arguments = callText callee arguments := by
  cases arguments with
  | nil => rfl
  | cons first rest =>
    have text : applied callee (first :: rest) =
        callee ++ "(" ++ ", ".intercalate (first :: rest) ++ ")" := rfl
    have joined : (", ".intercalate (first :: rest)).toList =
        first.toList ++ (String.join (rest.map (", " ++ ·))).toList := by
      rw [String.toList_intercalate, List.map_cons, Text.intercalate_cons]
      simp [String.toList_join, List.flatMap_map]
    apply String.toList_inj.mp
    rw [text, callText]
    simp [joined]

theorem hasParentheses_callText (callee : String) (arguments : List String) :
    HasParentheses callee (callText callee arguments) ↔ arguments ≠ [] := by
  unfold HasParentheses callText
  cases arguments with
  | nil =>
    have longer : ¬callee.toList ++ ['('] <+: callee.toList := by
      intro isPrefix
      have := isPrefix.length_le
      rw [List.length_append, List.length_singleton] at this
      omega
    simpa using longer
  | cons argument arguments =>
    simp

theorem signature_eq (endpoint : Endpoint) :
    signature endpoint = callText ("def " ++ endpoint.name) (declarations endpoint) := by
  rw [← applied_eq_callText]
  unfold signature applied
  split
  · rfl
  · simp only [String.append_assoc]

theorem callOf_eq (name : String) (endpoint : Endpoint) (argument : Parameter → String) :
    callOf name endpoint argument = callText (clientMethod name endpoint)
      (inOrder endpoint (argument ∘ .path) (argument .query) (argument .body)) := by
  rw [callOf, applied_eq_callText, map_parameters, clientMethod]

theorem callAgrees_inOrder (name : String) (endpoint : Endpoint) (ofName : String → String)
    (query body : String) : CallAgrees name endpoint (inOrder endpoint ofName query body) := by
  have sameSlots : (inOrder endpoint ofName query body).map (fun _ => ()) =
      (declarations endpoint).map (fun _ => ()) := by
    rw [declarations_inOrder, map_inOrder, map_inOrder]
    rfl
  have sameLength := congrArg List.length sameSlots
  rw [List.length_map, List.length_map] at sameLength
  refine ⟨sameLength, ?_⟩
  rw [hasParentheses_callText, hasParentheses_callText, Ne, Ne, ← List.length_eq_zero_iff,
    ← List.length_eq_zero_iff, sameLength]

theorem kinds_examples (endpoint : Endpoint) {argument query body : String}
    (ofName : exampleKind argument = .placeholder) (ofQuery : exampleKind query = .query)
    (ofBody : exampleKind body = .body) :
    (inOrder endpoint (fun _ => argument) query body).map exampleKind =
      (declarations endpoint).map declarationKind := by
  rw [kinds_declarations, map_inOrder, ofQuery, ofBody]
  exact inOrder_congr (fun _ _ => ofName) _ _

theorem exampleCall_eq (name : String) (endpoint : Endpoint) : exampleCall name endpoint =
    callText (clientMethod name endpoint) (shownArguments endpoint) := by
  have query : exampleArgument endpoint.verb .query = "\x7b page: 1 \x7d" := by
    rw [exampleArgument]
    decide
  have body : exampleArgument endpoint.verb .body =
      if endpoint.verb = .post then "\x7b name: \"value\" \x7d"
        else "\x7b name: \"new value\" \x7d" := by
    cases endpoint.verb <;> decide
  rw [exampleCall, callOf_eq, query, body]
  rfl

theorem testCall_eq (name : String) (endpoint : Endpoint) : callOf name endpoint testArgument =
    callText (clientMethod name endpoint) (testedArguments endpoint) := by
  have sample : stringLiteral sampleValue = "\"123\"" := by decide +kernel
  have path : testArgument ∘ .path = fun _ => "\"123\"" := funext fun _ => sample
  have query : testArgument .query = "\x7b page: 1 \x7d" := by decide
  have body : testArgument .body = "\x7b name: \"Test\" \x7d" := by decide
  rw [callOf_eq, path, query, body]
  rfl

theorem referenceCall_eq (name : String) (endpoint : Endpoint) :
    callOf name endpoint Parameter.name =
      callText (clientMethod name endpoint) ((declarations endpoint).map declaredName) := by
  rw [callOf_eq, declaredNames_inOrder]
  rfl

theorem kinds_shownArguments (endpoint : Endpoint) :
    (shownArguments endpoint).map exampleKind = (declarations endpoint).map declarationKind := by
  refine kinds_examples endpoint (by decide) (by decide) ?_
  split <;> decide

theorem kinds_testedArguments (endpoint : Endpoint) :
    (testedArguments endpoint).map exampleKind = (declarations endpoint).map declarationKind :=
  kinds_examples endpoint (by decide) (by decide) (by decide)

/-- The calls of an endpoint agree with its method, wherever they are written. -/
theorem callAgreement (gem : Gem) {name : String} {resource : Resource} {endpoint : Endpoint}
    (named : (name, resource) ∈ gem.resources) (member : endpoint ∈ resource.endpoints) :
    CallAgreement gem name resource endpoint where
  declared := declarations_inOrder endpoint
  kinds := kinds_declarations endpoint
  defined := signature_eq endpoint ▸ resourceSource_hasLines gem name member
  documented := referenceCall_eq name endpoint ▸ reference_hasLines_call named member
  names := declaredNames_inOrder endpoint
  shown := by
    rw [← exampleCall_eq]
    exact {
      overview := readme_hasLines_overview named member
      usage := fun first => readme_hasLines_usage first named
      errorGuide := fun first _ _ split empty => readme_hasLines_errorGuide first split empty }
  tested := testCall_eq name endpoint ▸ testSuite_hasLines named member
  sameKinds := by
    simp only [List.forall_mem_cons]
    exact ⟨kinds_shownArguments endpoint, kinds_testedArguments endpoint, by simp⟩
  agrees := by
    simp only [List.forall_mem_cons, declaredNames_inOrder]
    exact ⟨callAgrees_inOrder .., callAgrees_inOrder .., callAgrees_inOrder .., by simp⟩
  written _ := filesAbout_subset named

/-- The second resource has an endpoint with a placeholder that is there twice, empty braces and
both hashes. -/
def noticeBoard : Gem where
  api.resources :=
    { entries := [("boards", {}), ("threads", {
        endpoints :=
          [ { name := "reply", verb := .patch, params := true,
              pathSetting := some "threads/\x7bid\x7d/\x7b\x7d/\x7bpost\x7d/\x7bid\x7d" },
            { name := "list" } ] })]
      names_nodup := by decide }

theorem callAgreement_noticeBoard : ∃ resource endpoint,
    (("threads", resource) ∈ noticeBoard.resources ∧ endpoint ∈ resource.endpoints) ∧
      CallAgreement noticeBoard "threads" resource endpoint :=
  ⟨_, _, ⟨.tail _ (.head _), .head _⟩, callAgreement noticeBoard (.tail _ (.head _)) (.head _)⟩

end ClientGem.Gem
