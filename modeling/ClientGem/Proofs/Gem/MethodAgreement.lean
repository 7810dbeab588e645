import ClientGem.Gem.Classes
import ClientGem.Gem.Requests
import ClientGem.Proofs.PathTemplate.Interpolation
import ClientGem.Proofs.PathTemplate.Names
import ClientGem.Proofs.Ruby.Call

/-!
What is generated for an endpoint fits together: the parameters its method declares, the path it
interpolates, the arguments it hands to the request, and the keywords the request takes.
-/

namespace ClientGem.Gem

open Api Ruby PathTemplate

def hashDefault : List Char :=
  (" = " ++ emptyHash).toList

/-- The name a declaration gives to the parameter, which is all of it but a default. -/
def declaredName (declaration : String) : String :=
  let text := declaration.toList
  if hashDefault.isSuffixOf text then String.ofList (text.take (text.length - hashDefault.length))
  else declaration

structure MethodAgreement (endpoint : Endpoint) : Prop where
  written : ∀ moduleName format, ∃ unwrap, endpointMethod moduleName format endpoint =
    .block ("def " ++ applied endpoint.name (declarations endpoint))
      [ .line ("request = " ++ moduleName ++ "::Request.new(\"" ++ interpolate endpoint.path ++
          "\", @config)"),
        .line ("response = " ++ requestCall endpoint), .blank, .line unwrap ]
  /-- The names that the path interpolates come first, each once, and then the two hashes. -/
  declared : ∃ segments, StringBody.read (interpolate endpoint.path).toList = some segments ∧
    declarations endpoint =
      (segments.filterMap Segment.name?).eraseDups.map String.ofList ++
        (if endpoint.params then ["params = \x7b\x7d"] else []) ++
        (if endpoint.verb.hasBody then ["body = \x7b\x7d"] else [])
  passesQuery : "params: params" ∈ Call.arguments (requestCall endpoint) ↔
    "params = \x7b\x7d" ∈ declarations endpoint
  passesBody : "body: body" ∈ Call.arguments (requestCall endpoint) ↔
    "body = \x7b\x7d" ∈ declarations endpoint
  accepted : ∀ argument ∈ Call.arguments (requestCall endpoint),
    Call.keyword argument ∈ verbKeywords endpoint.verb
  called : Call.callee (requestCall endpoint) = "request." ++ endpoint.verb.name
  /-- The request class of every gem has the method that is called, with these keywords. -/
  defined : ∃ header body, verbMethod endpoint.verb = .block header body ∧
    Call.callee header = "def " ++ endpoint.verb.name ∧
    (Call.arguments header).map Call.keyword = verbKeywords endpoint.verb ++ ["headers"] ∧
    ∀ gem : Gem, ∃ items,
      .block ("module " ++ gem.moduleName) [.block "class Request" items] ∈ gem.requestSource ∧
      .block header body ∈ items
  /-- Only a placeholder with the name of one of the hashes can clash. -/
  distinct : ((declarations endpoint).map declaredName).Nodup ↔
    ¬ (endpoint.params = true ∧ .placeholder "params".toList ∈ parse endpoint.path) ∧
    ¬ (endpoint.verb.hasBody = true ∧ .placeholder "body".toList ∈ parse endpoint.path)

theorem declarations_eq (endpoint : Endpoint) :
    declarations endpoint = params endpoint.path ++
      (if endpoint.params then ["params = \x7b\x7d"] else []) ++
      (if endpoint.verb.hasBody then ["body = \x7b\x7d"] else []) := by
  have named : params endpoint.path =
      ((params endpoint.path).map Parameter.path).map Parameter.declaration := by
    simp [Function.comp_def, Parameter.declaration]
  unfold declarations parameters
  rw [List.map_append, List.map_append, ← named]
  congr 1
  · congr 1
    split <;> rfl
  · split <;> rfl

theorem mem_chosen {α : Type} {query body : Bool} {x first second : α} :
    x ∈ (if query then [first] else []) ++ (if body then [second] else []) ↔
      (query = true ∧ x = first) ∨ (body = true ∧ x = second) := by
  cases query <;> cases body <;> simp

theorem map_chosen {α β : Type} {query body : Bool} {first second : α} (f : α → β) :
    ((if query then [first] else []) ++ (if body then [second] else [])).map f =
      (if query then [f first] else []) ++ (if body then [f second] else []) := by
  cases query <;> cases body <;> rfl

theorem keywords_parameters (endpoint : Endpoint) :
    (parameters endpoint).filterMap Parameter.keyword? =
      (if endpoint.params then ["params"] else []) ++
      (if endpoint.verb.hasBody then ["body"] else []) := by
  have noPath : ((params endpoint.path).map Parameter.path).filterMap Parameter.keyword? = [] := by
    simp [Parameter.keyword?]
  unfold parameters
  rw [List.filterMap_append, List.filterMap_append, noPath, List.nil_append]
  congr 1
  · split <;> rfl
  · split <;> rfl

theorem no_paren_verb (before : String) (verb : Verb) (no_paren : '(' ∉ before.toList) :
    '(' ∉ (before ++ verb.name).toList := by
  rw [String.toList_append, List.mem_append, not_or]
  refine ⟨no_paren, ?_⟩
  cases verb <;> decide

theorem arguments_requestCall (endpoint : Endpoint) :
    Call.arguments (requestCall endpoint) =
      (if endpoint.params then ["params: params"] else []) ++
      (if endpoint.verb.hasBody then ["body: body"] else []) := by
  unfold requestCall
  rw [keywords_parameters, map_chosen]
  refine Call.arguments_applied _ (no_paren_verb "request." endpoint.verb (by decide)) ?_
  intro argument member
  rcases mem_chosen.mp member with ⟨_, rfl⟩ | ⟨_, rfl⟩
  · exact ⟨by decide, by decide⟩
  · exact ⟨by decide, by decide⟩

theorem callee_requestCall (endpoint : Endpoint) :
    Call.callee (requestCall endpoint) = "request." ++ endpoint.verb.name :=
  Call.callee_applied _ (no_paren_verb "request." endpoint.verb (by decide))

theorem keyword_mem_verbKeywords (endpoint : Endpoint) :
    ∀ argument ∈ Call.arguments (requestCall endpoint),
      Call.keyword argument ∈ verbKeywords endpoint.verb := by
  intro argument member
  rw [arguments_requestCall] at member
  rcases mem_chosen.mp member with ⟨_, rfl⟩ | ⟨hasBody, rfl⟩
  · unfold verbKeywords
    split <;> decide
  · unfold verbKeywords
    rw [if_pos hasBody]
    decide

/-- Names of placeholders hold no brace, so no placeholder looks like a hash with its default. -/
theorem not_mem_params (path declaration : String) (brace : '\x7b' ∈ declaration.toList) :
    declaration ∉ params path :=
  fun member => (isName_of_mem_params member).no_open brace

theorem query_mem_declarations (endpoint : Endpoint) :
    "params = \x7b\x7d" ∈ declarations endpoint ↔ endpoint.params = true := by
  rw [declarations_eq, List.append_assoc, List.mem_append, mem_chosen]
  have noName := not_mem_params endpoint.path "params = \x7b\x7d" (by decide)
  simp [noName]

theorem body_mem_declarations (endpoint : Endpoint) :
    "body = \x7b\x7d" ∈ declarations endpoint ↔ endpoint.verb.hasBody = true := by
  rw [declarations_eq, List.append_assoc, List.mem_append, mem_chosen]
  have noName := not_mem_params endpoint.path "body = \x7b\x7d" (by decide)
  simp [noName]

theorem declaredName_of_mem_params {path name : String} (member : name ∈ params path) :
    declaredName name = name := by
  apply if_neg
  intro isSuffix
  have isSuffix := List.isSuffixOf_iff_suffix.mp isSuffix
  exact (isName_of_mem_params member).no_open (isSuffix.subset (by decide))

theorem declaredNames_eq (endpoint : Endpoint) :
    (declarations endpoint).map declaredName = params endpoint.path ++
      ((if endpoint.params then ["params"] else []) ++
      (if endpoint.verb.hasBody then ["body"] else [])) := by
  rw [declarations_eq, List.append_assoc, List.map_append, map_chosen]
  congr 1
  have unchanged : ∀ name ∈ params endpoint.path, declaredName name = id name :=
    fun _ member => declaredName_of_mem_params member
  rw [List.map_congr_left unchanged, List.map_id]

theorem nodup_append_iff {names hashes : List String} (nodup : names.Nodup)
    (nodup' : hashes.Nodup) : (names ++ hashes).Nodup ↔ ∀ hash ∈ hashes, hash ∉ names := by
  rw [List.nodup_append]
  constructor
  · rintro ⟨_, _, apart⟩ hash member known
    exact apart hash known hash member rfl
  · intro apart
    exact ⟨nodup, nodup', fun name known hash member same => apart hash member (same ▸ known)⟩

theorem nodup_declaredNames (endpoint : Endpoint) :
    ((declarations endpoint).map declaredName).Nodup ↔
      ¬ (endpoint.params = true ∧ .placeholder "params".toList ∈ parse endpoint.path) ∧
      ¬ (endpoint.verb.hasBody = true ∧ .placeholder "body".toList ∈ parse endpoint.path) := by
  have hashes : ((if endpoint.params then ["params"] else []) ++
      (if endpoint.verb.hasBody then ["body"] else [])).Nodup := by
    cases endpoint.params <;> cases endpoint.verb.hasBody <;> decide
  rw [declaredNames_eq, nodup_append_iff (nodup_params endpoint.path) hashes, ← mem_params,
    ← mem_params]
  constructor
  · intro apart
    exact ⟨fun clash => apart "params" (mem_chosen.mpr (.inl ⟨clash.1, rfl⟩)) clash.2,
      fun clash => apart "body" (mem_chosen.mpr (.inr ⟨clash.1, rfl⟩)) clash.2⟩
  · rintro ⟨noQuery, noBody⟩ hash member known
    rcases mem_chosen.mp member with ⟨query, rfl⟩ | ⟨body, rfl⟩
    · exact noQuery ⟨query, known⟩
    · exact noBody ⟨body, known⟩

theorem verbMethod_mem (gem : Gem) (verb : Verb) : ∃ items,
    .block ("module " ++ gem.moduleName) [.block "class Request" items] ∈ gem.requestSource ∧
    verbMethod verb ∈ items := by
  refine ⟨_, List.mem_append_right _ (List.mem_cons_of_mem _ List.mem_cons_self), ?_⟩
  have member : verbMethod verb ∈ eachAfterBlank (Verb.all.map verbMethod) := by
    cases verb <;> simp [eachAfterBlank, Verb.all]
  simp [member]

theorem verbMethod_eq (verb : Verb) : ∃ body, verbMethod verb = .block
    (applied ("def " ++ verb.name)
      ((verbKeywords verb).map (· ++ ": \x7b\x7d") ++ ["headers: \x7b\x7d"])) body := by
  cases verb <;> exact ⟨_, rfl⟩

theorem keywords_verbMethod (verb : Verb) :
    ∃ header body, verbMethod verb = .block header body ∧
      Call.callee header = "def " ++ verb.name ∧
      (Call.arguments header).map Call.keyword = verbKeywords verb ++ ["headers"] := by
  obtain ⟨body, same⟩ := verbMethod_eq verb
  have no_paren := no_paren_verb "def " verb (by decide)
  refine ⟨_, body, same, Call.callee_applied _ no_paren, ?_⟩
  rw [Call.arguments_applied _ no_paren]
  · unfold verbKeywords
    split <;> decide
  · unfold verbKeywords
    split <;> decide

/-- For every endpoint, the parameters of its method, the path it interpolates and the call of the
request agree. -/
theorem methodAgreement (endpoint : Endpoint) : MethodAgreement endpoint := by
  obtain ⟨header, body, same, callee, keywords⟩ := keywords_verbMethod endpoint.verb
  exact {
    written := fun _ _ => ⟨_, rfl⟩
    declared := ⟨parse endpoint.path, read_interpolate endpoint.path, by
      rw [declarations_eq, params, placeholderNames, firstOccurrences_eq_eraseDups]
      simp⟩
    passesQuery := by
      rw [query_mem_declarations, arguments_requestCall, mem_chosen]
      simp
    passesBody := by
      rw [body_mem_declarations, arguments_requestCall, mem_chosen]
      simp
    accepted := keyword_mem_verbKeywords endpoint
    called := callee_requestCall endpoint
    defined := ⟨header, body, same, callee, keywords, fun gem =>
      same ▸ verbMethod_mem gem endpoint.verb⟩
    distinct := nodup_declaredNames endpoint }

end ClientGem.Gem
