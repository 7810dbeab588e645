import ClientGem.Proofs.Gem.Passages
import ClientGem.Proofs.Ruby.Value

/-!
The response that the test of an endpoint stubs, read as a value, against the keys by which the
method of the endpoint takes it apart.
-/

namespace ClientGem.Gem

open Api Ruby

def Collects (moduleName expression : String) : Prop :=
  (moduleName ++ "::Collection.from_response(").toList <+: expression.toList

def collectionAssertion (moduleName : String) : Item :=
  .line ("assert_instance_of " ++ moduleName ++ "::Collection, result")

def given (keyword : String) (entries : List (String × String)) : Option String :=
  (entries.find? (·.1 = keyword)).map Prod.snd

def itemValue : Value :=
  .hash [("id", .word "1"), ("name", .text "Test")]

def HoldsItem (root : Option String) (body : Value) : Prop :=
  match root with
  | none => body = itemValue
  | some root => body.find root = some itemValue

/-- An expression takes an object from under the root, spelled as a symbol or as a text, and where
there is no root it takes the whole body. -/
def TakesObject (moduleName expression : String) (root : Option String) : Prop :=
  ∃ argument tokens, expression = moduleName ++ "::Object.new(" ++ argument ∧
    Token.read argument.toList = some tokens ∧
    match root with
    | none => tokens = [.word "response", .mark ')']
    | some root => Token.keys tokens = [.symbol root, .text root]

/-- The keys by which a collection is taken: those that the expression passes to its class, or else
the defaults that the class declares. -/
structure TakesCollection (gem : Gem) (expression : String)
    (passed defaults : List (String × String)) (dataKey nextKey : String) : Prop where
  passes : ∃ arguments, expression = gem.moduleName ++
      "::Collection.from_response(response, type: " ++ gem.moduleName ++ "::Object" ++ arguments ∧
    (Token.read arguments.toList).map Token.keywordTexts = some passed
  declares : ∃ items header body, gem.collectionSource = Source.preamble ++
      [.block ("module " ++ gem.moduleName) [.block "class Collection" items]] ∧
    .block header body ∈ items ∧ "def self.from_response(".toList <+: header.toList ∧
    (Token.read header.toList).map Token.keywordTexts = some defaults
  data : given "data_key" (passed ++ defaults) = some dataKey
  next : given "next_key" (passed ++ defaults) = some nextKey

/-- The last expression of a method, the response stubbed by its test, and the example of its
result. -/
structure ResponseShape (gem : Gem) (name : String) (resource : Resource) (endpoint : Endpoint)
    (expression stub : String) (shown : List String) : Prop where
  returned : ∃ items statements, gem.resourceSource name resource = Source.preamble ++
      [.block ("module " ++ gem.moduleName)
        [.block "module Resources" [.block ("class " ++ className name) items]]] ∧
    .block (signature endpoint) (statements ++ [.line expression]) ∈ items
  stubbed : ∃ statements, .block ("def " ++ endpointTestName name endpoint)
      (.line ("response_body = " ++ stub) :: statements) ∈ gem.endpointTests ∧
    (collectionAssertion gem.moduleName ∈ statements ↔ Collects gem.moduleName expression)
  tested : ∃ items, gem.testSuiteSource = Source.preamble ++ [.line "require \"test_helper\"",
    .blank, .block ("class " ++ gem.moduleName ++ "Test < Minitest::Test") items] ∧
    gem.endpointTests ⊆ items
  documented : (∃ before, gem.endpointReference name endpoint =
      joinLines (before ++ shown ++ ["```"]) ∧ before.getLast? = some "```ruby" ∧
      HasLines gem.reference (before ++ shown ++ ["```"])) ∧
    "```ruby" ∉ shown ∧
    (shown.head? = some "# Returns a Collection" ↔ Collects gem.moduleName expression)
  written : ∀ files, gem.render = .ok files → gem.filesAbout name resource ⊆ files
  collects : Collects gem.moduleName expression ↔ endpoint.isCollection = true
  collection : Collects gem.moduleName expression → ∃ passed defaults dataKey nextKey,
    TakesCollection gem expression passed defaults dataKey nextKey ∧
    (dataKey ≠ nextKey → ∃ body, Value.ofLiteral stub = some body ∧
      body.find dataKey = some (.list [itemValue]) ∧ body.find nextKey = some (.text "/next"))
  single : ¬Collects gem.moduleName expression → ∃ body, Value.ofLiteral stub = some body ∧
    TakesObject gem.moduleName expression (resource.format gem.api.responseFormat).itemRoot ∧
    HoldsItem (resource.format gem.api.responseFormat).itemRoot body

section Stub

open Token

def itemTokens : List Token :=
  [.mark '\x7b', .text "id", .mark '=', .mark '>', .word "1", .mark ',', .text "name", .mark '=',
    .mark '>', .text "Test", .mark '\x7d']

theorem reads_sampleItem : Reads (.code []) sampleItem.toList itemTokens (.code []) := by
  decide +kernel

theorem reads_open : Reads (.code []) "\x7b ".toList [.mark '\x7b'] (.code []) := by
  decide +kernel

theorem reads_close : Reads (.code []) " \x7d".toList [.mark '\x7d'] (.code []) := by
  decide +kernel

theorem reads_entry (key : String) {value : String} {tokens : List Token}
    (reads : Reads (.code []) value.toList tokens (.code [])) :
    Reads (.code []) (stringLiteral key ++ " => " ++ value).toList
      ([.text key, .mark '=', .mark '>'] ++ tokens) (.code []) := by
  have arrow : Reads (.code []) " => ".toList [.mark '=', .mark '>'] (.code []) := by
    decide +kernel
  simpa using ((reads_stringLiteral [] key).append arrow).append reads

theorem ofLiteral_sampleItem : Value.ofLiteral sampleItem = some itemValue := by
  have read := read_of_reads reads_sampleItem
  rw [Value.ofLiteral, read]
  rfl

theorem ofLiteral_sampleBody_object (format : ResponseFormat) :
    ∃ body, Value.ofLiteral (sampleBody false format) = some body ∧
      HoldsItem format.itemRoot body := by
  cases itemRoot : format.itemRoot with
  | none =>
    have body : sampleBody false format = sampleItem := by simp [sampleBody, itemRoot]
    exact ⟨itemValue, by rw [body, ofLiteral_sampleItem], rfl⟩
  | some root =>
    have reads := read_of_reads
      ((reads_open.append (reads_entry root reads_sampleItem)).append reads_close)
    have body : sampleBody false format = braced (stringLiteral root ++ " => " ++ sampleItem) := by
      simp [sampleBody, itemRoot]
    have text : (sampleBody false format).toList =
        "\x7b ".toList ++ (stringLiteral root ++ " => " ++ sampleItem).toList ++
          " \x7d".toList := by
      rw [body, braced, String.toList_append, String.toList_append]
    have read : Value.ofLiteral (sampleBody false format) = some (.hash [(root, itemValue)]) := by
      rw [Value.ofLiteral, text, reads]
      rfl
    exact ⟨_, read, by simp [HoldsItem, Value.find]⟩

theorem ofLiteral_sampleBody_collection (format : ResponseFormat) :
    Value.ofLiteral (sampleBody true format) =
      some (.hash [(format.collectionRoot.getD defaultDataKey, .list [itemValue]),
        (format.nextPageKey.getD defaultNextKey, .text "/next")]) := by
  let dataKey := format.collectionRoot.getD defaultDataKey
  let nextKey := format.nextPageKey.getD defaultNextKey
  have listed : Reads (.code []) " => [".toList [.mark '=', .mark '>', .mark '['] (.code []) := by
    decide +kernel
  have between : Reads (.code []) "], ".toList [.mark ']', .mark ','] (.code []) := by
    decide +kernel
  have next : Reads (.code []) " => \"/next\"".toList [.mark '=', .mark '>', .text "/next"]
      (.code []) := by
    decide +kernel
  have reads := read_of_reads <|
    ((((((reads_open.append (reads_stringLiteral [] dataKey)).append listed).append
      reads_sampleItem).append between).append (reads_stringLiteral [] nextKey)).append next).append
      reads_close
  have text : (sampleBody true format).toList = "\x7b ".toList ++
      (stringLiteral dataKey).toList ++ " => [".toList ++ sampleItem.toList ++ "], ".toList ++
      (stringLiteral nextKey).toList ++ " => \"/next\"".toList ++ " \x7d".toList := by
    simp only [sampleBody, if_pos, braced, String.toList_append, List.append_assoc, dataKey,
      nextKey]
  rw [Value.ofLiteral, text, reads]
  rfl

end Stub

section Keys

open Token

def configured (entry : String × Option String) : Option (String × String) :=
  entry.2.map fun key => (entry.1, key)

def passedKeys (format : ResponseFormat) : List (String × String) :=
  (collectionKeys format).filterMap configured

def keywordArgument (entry : String × String) : List Char :=
  ", ".toList ++ entry.1.toList ++ ": ".toList ++ (stringLiteral entry.2).toList

def keywordTokens (entry : String × String) : List Token :=
  [.mark ',', .word entry.1, .mark ':', .text entry.2]

theorem isKeyword_of_mem_passedKeys {format : ResponseFormat} {entry : String × String}
    (member : entry ∈ passedKeys format) :
    entry.1.toList ≠ [] ∧ ∀ c ∈ entry.1.toList, isWordChar c = true := by
  have keyword : entry.1 ∈ ["data_key", "next_key", "total_key", "limit_key"] := by
    obtain ⟨⟨keyword, key⟩, inKeys, chosen⟩ := List.mem_filterMap.mp member
    obtain ⟨text, -, rfl⟩ := Option.map_eq_some_iff.mp chosen
    have inNames := List.mem_map_of_mem (f := Prod.fst) inKeys
    exact inNames
  have plain : ∀ keyword ∈ ["data_key", "next_key", "total_key", "limit_key"],
      keyword.toList ≠ [] ∧ keyword.toList.all isWordChar = true := by
    decide
  obtain ⟨ne_nil, word⟩ := plain entry.1 keyword
  exact ⟨ne_nil, List.all_eq_true.mp word⟩

theorem collectionArguments_eq (moduleName : String) (format : ResponseFormat) :
    collectionArguments moduleName format = ("type: " ++ moduleName ++ "::Object") ::
      (passedKeys format).map fun entry => entry.1 ++ ": " ++ stringLiteral entry.2 := by
  rw [collectionArguments, passedKeys, List.map_filterMap]
  congr 2
  funext entry
  rw [configured, Option.map_map]
  rfl

theorem collectionExpression_eq (moduleName : String) (format : ResponseFormat) :
    collectionExpression moduleName format =
      moduleName ++ "::Collection.from_response(response, type: " ++ moduleName ++ "::Object" ++
        String.ofList ((passedKeys format).flatMap keywordArgument ++ [')']) := by
  have keyword (entry : String × String) :
      ", ".toList ++ (entry.1 ++ ": " ++ stringLiteral entry.2).toList = keywordArgument entry := by
    simp only [keywordArgument, String.toList_append, List.append_assoc]
  have arguments : (", ".intercalate (collectionArguments moduleName format)).toList =
      ("type: " ++ moduleName ++ "::Object").toList ++
        (passedKeys format).flatMap keywordArgument := by
    rw [collectionArguments_eq, String.toList_intercalate, List.map_cons, List.map_map,
      Text.intercalate_cons, List.flatMap_map]
    simp only [Function.comp_apply, keyword]
  apply String.toList_inj.mp
  rw [collectionExpression, String.toList_append, String.toList_append, arguments]
  simp

theorem reads_keywordArguments {entries : List (String × String)}
    (each : ∀ entry ∈ entries, entry.1.toList ≠ [] ∧ ∀ c ∈ entry.1.toList, isWordChar c = true) :
    Reads (.code []) (entries.flatMap keywordArgument) (entries.flatMap keywordTokens)
      (.code []) := by
  induction entries with
  | nil => rfl
  | cons entry entries ih =>
    obtain ⟨ne_nil, word⟩ := each entry List.mem_cons_self
    have comma : Reads (.code []) ", ".toList [.mark ','] (.code []) := by decide +kernel
    have keyword : Reads (.code []) entry.1.toList [] (.code entry.1.toList.reverse) := by
      simpa using reads_word [] word
    have colon : Reads (.code entry.1.toList.reverse) ": ".toList [.word entry.1, .mark ':']
        (.code []) := by
      simp [Reads, run, step, isWordChar, endWord, ne_nil]
    have one := ((comma.append keyword).append colon).append (reads_stringLiteral [] entry.2)
    have rest := ih fun other member => each other (List.mem_cons_of_mem _ member)
    rw [List.flatMap_cons, List.flatMap_cons]
    exact one.append rest

theorem keywordTexts_keywordTokens (entries : List (String × String)) (rest : List Token) :
    keywordTexts (entries.flatMap keywordTokens ++ rest) = entries ++ keywordTexts rest := by
  induction entries with
  | nil => rfl
  | cons entry entries ih =>
    simp [keywordTokens, keywordTexts, ← ih]

theorem read_keywordArguments (format : ResponseFormat) :
    Token.read ((passedKeys format).flatMap keywordArgument ++ [')']) =
      some ((passedKeys format).flatMap keywordTokens ++ [.mark ')']) := by
  have reads : Reads (.code []) ((passedKeys format).flatMap keywordArgument ++ [')'])
      ((passedKeys format).flatMap keywordTokens ++ [.mark ')']) (.code []) :=
    (reads_keywordArguments fun _ => isKeyword_of_mem_passedKeys).append (by decide)
  rw [read_of_reads reads, endWord_nil, List.append_nil]

theorem read_passedKeys (format : ResponseFormat) :
    (Token.read ((passedKeys format).flatMap keywordArgument ++ [')'])).map keywordTexts =
      some (passedKeys format) := by
  rw [read_keywordArguments, Option.map_some, keywordTexts_keywordTokens]
  simp [keywordTexts]

theorem given_append (keyword : String) (first second : List (String × String)) :
    given keyword (first ++ second) = (given keyword first).or (given keyword second) := by
  unfold given
  rw [List.find?_append]
  cases first.find? (·.1 = keyword) <;> rfl

theorem given_eq_none {keyword : String} {entries : List (String × Option String)}
    (absent : keyword ∉ entries.map Prod.fst) :
    given keyword (entries.filterMap configured) = none := by
  unfold given
  rw [Option.map_eq_none_iff, List.find?_eq_none]
  rintro pair member named
  obtain ⟨entry, inEntries, chosen⟩ := List.mem_filterMap.mp member
  obtain ⟨key, -, rfl⟩ := Option.map_eq_some_iff.mp chosen
  have same : entry.1 = keyword := by simpa using named
  exact absent (same ▸ List.mem_map_of_mem inEntries)

theorem given_configured {keyword : String} {key : Option String}
    {entries : List (String × Option String)} (member : (keyword, key) ∈ entries)
    (nodup : (entries.map Prod.fst).Nodup) :
    given keyword (entries.filterMap configured) = key := by
  induction entries with
  | nil => exact absurd member List.not_mem_nil
  | cons entry entries ih =>
    obtain ⟨fresh, others⟩ := List.nodup_cons.mp nodup
    rcases List.mem_cons.mp member with rfl | later
    · cases key with
      | none =>
        rw [List.filterMap_cons_none rfl]
        exact given_eq_none fresh
      | some key =>
        have chosen : configured (keyword, some key) = some (keyword, key) := rfl
        rw [List.filterMap_cons_some chosen]
        simp [given]
    · have apart : entry.1 ≠ keyword := by
        intro same
        exact fresh (same ▸ List.mem_map_of_mem later)
      cases chosen : configured entry with
      | none =>
        rw [List.filterMap_cons_none chosen]
        exact ih later others
      | some pair =>
        obtain ⟨text, -, rfl⟩ := Option.map_eq_some_iff.mp chosen
        rw [List.filterMap_cons_some chosen, given, List.find?_cons_of_neg (by simpa using apart)]
        exact ih later others

theorem collectionSource_declares (gem : Gem) :
    ∃ items body, gem.collectionSource = Source.preamble ++
        [.block ("module " ++ gem.moduleName) [.block "class Collection" items]] ∧
      .block fromResponseSignature body ∈ items :=
  ⟨_, _, rfl, List.mem_of_getElem? (i := 4) rfl⟩

def defaultKeys : List (String × String) :=
  [("data_key", defaultDataKey), ("next_key", defaultNextKey)]

theorem nodup_collectionKeys (format : ResponseFormat) :
    ((collectionKeys format).map Prod.fst).Nodup := by
  have names : (collectionKeys format).map Prod.fst =
      ["data_key", "next_key", "total_key", "limit_key"] := rfl
  rw [names]
  decide

/-- A keyword has its configured key, or else its default. -/
theorem given_passedKeys {format : ResponseFormat} {keyword : String} {key : Option String}
    (member : (keyword, key) ∈ collectionKeys format) :
    given keyword (passedKeys format ++ defaultKeys) = key.or (given keyword defaultKeys) := by
  rw [given_append, passedKeys, given_configured member (nodup_collectionKeys format)]

theorem takesCollection_collectionExpression (gem : Gem) (format : ResponseFormat) :
    TakesCollection gem (collectionExpression gem.moduleName format) (passedKeys format) defaultKeys
      (format.collectionRoot.getD defaultDataKey) (format.nextPageKey.getD defaultNextKey) where
  passes := ⟨_, collectionExpression_eq gem.moduleName format,
    by rw [String.toList_ofList, read_passedKeys]⟩
  declares := by
    have starts : "def self.from_response(".toList <+: fromResponseSignature.toList := by
      decide +kernel
    have defaults : (Token.read fromResponseSignature.toList).map keywordTexts =
        some defaultKeys := by
      decide +kernel
    obtain ⟨items, body, source, member⟩ := collectionSource_declares gem
    exact ⟨items, fromResponseSignature, body, source, member, starts, defaults⟩
  data := by
    have member : ("data_key", format.collectionRoot) ∈ collectionKeys format := by
      simp [collectionKeys]
    rw [given_passedKeys member]
    cases format.collectionRoot <;> rfl
  next := by
    have member : ("next_key", format.nextPageKey) ∈ collectionKeys format := by
      simp [collectionKeys]
    rw [given_passedKeys member]
    cases format.nextPageKey <;> rfl

def itemLookup (root : String) : String :=
  "response.is_a?(Hash) ? (response[" ++ symbolLiteral root ++ "] || response[" ++
    stringLiteral root ++ "] || response) : response)"

theorem read_itemLookup (root : String) : ∃ tokens,
    Token.read (itemLookup root).toList = some tokens ∧
      keys tokens = [.symbol root, .text root] := by
  have before : Reads (.code []) "response.is_a?(Hash) ? (response[".toList
    [.word "response", .mark '.', .word "is_a", .mark '?', .mark '(', .word "Hash", .mark ')',
      .mark '?', .mark '(', .word "response", .mark '['] (.code []) := by decide +kernel
  have between : Reads (.code []) " || response[".toList
    [.mark '|', .mark '|', .word "response", .mark '['] (.code []) := by decide +kernel
  have after : Reads (.code []) "] || response) : response)".toList
    [.mark ']', .mark '|', .mark '|', .word "response", .mark ')', .mark ':', .word "response",
      .mark ')'] (.code []) := by decide +kernel
  have text : (itemLookup root).toList = "response.is_a?(Hash) ? (response[".toList ++
      ((symbolLiteral root).toList ++ [']']) ++ " || response[".toList ++
        (stringLiteral root).toList ++ "] || response) : response)".toList := by
    have bracket : "] || response[".toList = [']'] ++ " || response[".toList := rfl
    unfold itemLookup
    simp only [String.toList_append]
    rw [bracket]
    simp only [List.append_assoc]
  have reads := (((before.append (reads_symbolLiteral root)).append between).append
    (reads_stringLiteral [] root)).append after
  have read := read_of_reads reads
  rw [← text] at read
  refine ⟨_, read, ?_⟩
  simp [keys, keys_symbol]

theorem takesObject_objectExpression (moduleName : String) (root : Option String) :
    TakesObject moduleName (objectExpression moduleName root) root := by
  cases root with
  | none =>
    have read : Token.read "response)".toList = some [.word "response", .mark ')'] := by
      decide +kernel
    have opening : "::Object.new(response)" = "::Object.new(" ++ "response)" :=
      String.toList_inj.mp rfl
    exact ⟨"response)", _, by rw [objectExpression, opening, String.append_assoc], read, rfl⟩
  | some root =>
    obtain ⟨tokens, read, keys⟩ := read_itemLookup root
    have opening : "::Object.new(response.is_a?(Hash) ? (response[" =
        "::Object.new(" ++ "response.is_a?(Hash) ? (response[" :=
      String.toList_inj.mp rfl
    refine ⟨itemLookup root, tokens, ?_, read, keys⟩
    unfold objectExpression itemLookup
    rw [opening]
    simp only [String.append_assoc]

end Keys

theorem objectExpression_starts (moduleName : String) (root : Option String) :
    ∃ rest, (objectExpression moduleName root).toList =
      moduleName.toList ++ "::Object.new(response".toList ++ rest := by
  unfold objectExpression
  cases root <;> simp

theorem collects_unwrapExpression (moduleName : String) (isCollection : Bool)
    (format : ResponseFormat) :
    Collects moduleName (unwrapExpression moduleName isCollection format) ↔
      isCollection = true := by
  unfold Collects unwrapExpression
  cases isCollection with
  | true => simp [collectionExpression]
  | false =>
    obtain ⟨rest, starts⟩ := objectExpression_starts moduleName format.itemRoot
    simp [starts, List.append_assoc]

theorem collectionAssertion_ne_line (moduleName : String) {text : String}
    (first : text.toList.head? ≠ some 'a') : collectionAssertion moduleName ≠ .line text := by
  rintro same
  injection same with same
  rw [← same] at first
  simp at first

theorem collectionAssertion_mem (moduleName : String) (isCollection : Bool) :
    collectionAssertion moduleName ∈ (resultAssertions moduleName isCollection).map .line ↔
      isCollection = true := by
  unfold collectionAssertion resultAssertions
  cases isCollection with
  | true => simp
  | false => simp [← String.toList_inj]

theorem endpointTest_asserts (gem : Gem) (resource : String) (format : ResponseFormat)
    (endpoint : Endpoint) : ∃ statements,
      gem.endpointTest resource format endpoint =
        .block ("def " ++ endpointTestName resource endpoint)
          (.line ("response_body = " ++ sampleBody endpoint.isCollection format) :: statements) ∧
      (collectionAssertion gem.moduleName ∈ statements ↔ endpoint.isCollection = true) := by
  have notBlank : collectionAssertion gem.moduleName ≠ .blank := Item.noConfusion
  have headers : collectionAssertion gem.moduleName ≠ .line returnedHeaders :=
    collectionAssertion_ne_line _ (by decide +kernel)
  refine ⟨[.line _] ++ (if endpoint.params then [.line _] else []) ++
    [.line _, .line returnedHeaders, .blank, .line _, .line _, .blank] ++
      (resultAssertions gem.moduleName endpoint.isCollection).map .line, rfl, ?_⟩
  rw [List.mem_append, collectionAssertion_mem, or_iff_right]
  intro member
  simp [headers, notBlank] at member
  rcases member with same | ⟨-, same⟩ | same | same | same
  all_goals exact collectionAssertion_ne_line _ (by simp) same

theorem fence_not_mem_resultExample (name : String) (isCollection : Bool) (item : String) :
    "```ruby" ∉ resultExample name isCollection item := by
  have first : ∀ line ∈ resultExample name isCollection item,
      line.toList.head? ≠ "```ruby".toList.head? := by
    unfold resultExample
    repeat' split
    all_goals simp
  exact fun member => first _ member rfl

theorem head_resultExample (name : String) (isCollection : Bool) (item : String) :
    (resultExample name isCollection item).head? = some "# Returns a Collection" ↔
        isCollection = true := by
  unfold resultExample
  cases isCollection with
  | true => simp
  | false =>
    simp only [Bool.false_eq_true, if_false, iff_false]
    repeat' split
    all_goals simp [← String.toList_inj]

theorem endpointMethod_returns (moduleName : String) (format : ResponseFormat)
    (endpoint : Endpoint) : ∃ statements, endpointMethod moduleName format endpoint =
      .block (signature endpoint) (statements ++
        [.line (unwrapExpression moduleName endpoint.isCollection format)]) :=
  ⟨[_, _, _], rfl⟩

theorem resourceSource_defines (gem : Gem) (name : String) {resource : Resource}
    {endpoint : Endpoint} (member : endpoint ∈ resource.endpoints) :
    ∃ items, gem.resourceSource name resource = Source.preamble ++
        [.block ("module " ++ gem.moduleName)
          [.block "module Resources" [.block ("class " ++ className name) items]]] ∧
      endpointMethod gem.moduleName (resource.format gem.api.responseFormat) endpoint ∈ items := by
  exact ⟨_, rfl, List.mem_append_right _ (mem_eachAfterBlank (List.mem_map_of_mem member))⟩

theorem endpointReference_examples (gem : Gem) {name : String} {resource : Resource}
    {endpoint : Endpoint} (named : (name, resource) ∈ gem.resources)
    (member : endpoint ∈ resource.endpoints) :
    ∃ before, gem.endpointReference name endpoint = joinLines (before ++
        resultExample endpoint.name endpoint.isCollection (singular name) ++ ["```"]) ∧
      before.getLast? = some "```ruby" ∧
      HasLines gem.reference (before ++
        resultExample endpoint.name endpoint.isCollection (singular name) ++ ["```"]) :=
  ⟨_, rfl, by rw [List.getLast?_append]; rfl,
    reference_hasLines named member (by simp) rfl List.infix_rfl⟩

theorem testSuiteSource_endpointTests (gem : Gem) :
    ∃ items, gem.testSuiteSource = Source.preamble ++ [.line "require \"test_helper\"",
        .blank, .block ("class " ++ gem.moduleName ++ "Test < Minitest::Test") items] ∧
      gem.endpointTests ⊆ items :=
  ⟨_, rfl, fun _ member => List.mem_append_right _ (mem_eachAfterBlank member)⟩

/-- The method of an endpoint makes a collection of its response, the test expects one, and the
reference shows one, all for the same endpoints. The keys by which the method takes a response apart
are those of the response that the test stubs. -/
theorem responseShape (gem : Gem) {name : String} {resource : Resource} {endpoint : Endpoint}
    (named : (name, resource) ∈ gem.resources) (member : endpoint ∈ resource.endpoints) :
    ∃ expression stub shown, ResponseShape gem name resource endpoint expression stub shown := by
  let format := resource.format gem.api.responseFormat
  have collects := collects_unwrapExpression gem.moduleName endpoint.isCollection format
  obtain ⟨items, source, defined⟩ := resourceSource_defines gem name member
  obtain ⟨before, returns⟩ := endpointMethod_returns gem.moduleName format endpoint
  obtain ⟨statements, test, asserts⟩ := endpointTest_asserts gem name format endpoint
  refine ⟨unwrapExpression gem.moduleName endpoint.isCollection format,
    sampleBody endpoint.isCollection format,
    resultExample endpoint.name endpoint.isCollection (singular name), {
      returned := ⟨items, before, source, returns ▸ defined⟩
      stubbed := ⟨statements, test ▸ mem_endpointTests named member,
        asserts.trans collects.symm⟩
      tested := testSuiteSource_endpointTests gem
      documented := ⟨endpointReference_examples gem named member,
        fence_not_mem_resultExample _ _ _, (head_resultExample _ _ _).trans collects.symm⟩
      written := fun _ => filesAbout_subset named
      collects := collects
      collection := ?_
      single := ?_ }⟩
  · intro collected
    rw [collects.mp collected]
    refine ⟨_, _, _, _, takesCollection_collectionExpression gem format, fun apart =>
      ⟨_, ofLiteral_sampleBody_collection format, ?_, ?_⟩⟩
    · simp [Value.find, apart.symm]
    · simp [Value.find]
  · intro notCollected
    have isObject : endpoint.isCollection = false := by
      simpa using fun isCollection => notCollected (collects.mpr isCollection)
    obtain ⟨body, read, holds⟩ := ofLiteral_sampleBody_object format
    rw [isObject]
    exact ⟨body, read, takesObject_objectExpression gem.moduleName format.itemRoot, holds⟩

def listing : Gem where
  api.responseFormat := { itemRoot := some "user", pagination := some { limitKey := some "max" } }
  api.resources :=
    { entries := [("users", {
        endpoints := [{ name := "list" }, { name := "show" }]
        formatOverride := some { collectionRoot := some "\"#\x7busers\x7d\"" } })]
      names_nodup := by decide }

theorem responseShape_listing : ∃ resource endpoint, (("users", resource) ∈ listing.resources ∧
    endpoint ∈ resource.endpoints) ∧ ∃ expression stub shown,
      ResponseShape listing "users" resource endpoint expression stub shown :=
  ⟨_, _, ⟨List.mem_singleton_self _, List.mem_cons_self⟩,
    responseShape listing (List.mem_singleton_self _) List.mem_cons_self⟩

end ClientGem.Gem
