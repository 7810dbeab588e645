import ClientGem.Proofs.Gem.LibraryFiles
import ClientGem.Proofs.Gem.OneLine
import ClientGem.Proofs.Ruby.PlainText

/-!
The blocks of the files of a library are closed where they were opened. The templates see to it as
far as their own lines go; names and texts that are put into these lines cannot make them open or
close a block, since they stand behind a fixed beginning or before a fixed end.
-/

namespace ClientGem.Gem

open Api Output Ruby Source

/-- The names are those that generated code can use as they stand, and all other texts are one
line. -/
structure PlainlyNamed (gem : Gem) : Prop where
  apiLetter : ∃ c ∈ gem.apiName.toList.head?, c.isAlpha = true
  apiUnbroken : '\n' ∉ gem.apiName.toList
  resources : ∀ name ∈ gem.resourceNames, isPlainSymbol name = true
  endpoints : ∀ entry ∈ gem.resources, ∀ endpoint ∈ entry.2.endpoints,
    isPlainSymbol endpoint.name = true ∧
      ∀ param ∈ PathTemplate.params endpoint.path, isPlainSymbol param = true
  paths : ∀ entry ∈ gem.resources, ∀ endpoint ∈ entry.2.endpoints, '\n' ∉ endpoint.path.toList
  keys : ∀ entry ∈ gem.resources, ∀ key ∈ formatKeys (entry.2.format gem.api.responseFormat),
    '\n' ∉ key.toList
  settings : ∀ text ∈ [gem.api.baseUrl, gem.api.tokenUrl, gem.api.apiKeyHeader],
    '\n' ∉ text.toList

theorem balanced_preamble : Balanced preamble :=
  (balanced_line (by decide)).cons balanced_blank

theorem balanced_method {signature : String} {body : List String}
    (inSignature : '\n' ∉ signature.toList) (plain : ∀ text ∈ body, IsPlain text) :
    Balanced [method signature body] :=
  balanced_block (isHeader_opening signature (by decide) inSignature) (balanced_map_line plain)

theorem opensOver_fromResponseSignature : opensOver (Text.lines fromResponseSignature) = true := by
  rw [Text.lines, Text.split, ← Text.quickChars_eq]
  decide +kernel

theorem balanced_requireLines {α : Type} {items : List α} {target : α → String}
    (each : ∀ item ∈ items, '\n' ∉ (target item).toList) :
    Balanced (items.map fun item => requireLine (target item)) := by
  apply balanced_of_forall
  intro line member
  obtain ⟨item, inItems, rfl⟩ := List.mem_map.mp member
  have inTarget := each item inItems
  exact balanced_line (isPlain_around (by decide) (by decide) (by simp [inTarget]))

theorem balanced_connection (mode : AuthMode) : Balanced [connection mode] := by
  cases mode <;> exact balanced_of_isBalanced (by decide +kernel)

section Names

variable {gem : Gem} (named : gem.PlainlyNamed)
include named

theorem PlainlyNamed.module : '\n' ∉ gem.moduleName.toList :=
  newline_not_mem_moduleName named.apiUnbroken

theorem PlainlyNamed.module_starts : ∃ c more,
    gem.moduleName.toList = c :: more ∧ c.isUpper = true := by
  obtain ⟨c, found, letter⟩ := named.apiLetter
  obtain ⟨rest, begins⟩ := List.head?_eq_some_iff.mp found
  obtain ⟨more, capital⟩ := moduleName_cons begins letter
  exact ⟨c.toUpper, more, capital, isUpper_toUpper letter⟩

/-- Everything else in the file of a module is inside the module. -/
theorem PlainlyNamed.balanced_module {inside : Source} (balanced : Balanced inside) :
    Balanced [.block ("module " ++ gem.moduleName) inside] :=
  balanced_block (isHeader_opening gem.moduleName (by decide) named.module) balanced

theorem PlainlyNamed.isPlain_module {text : String} (begins : gem.moduleName.toList <+: text.toList)
    (ends : endsInDo text.toList = false) (unbroken : '\n' ∉ text.toList) : IsPlain text := by
  obtain ⟨c, more, starts, upper⟩ := named.module_starts
  have capital : (String.singleton c).toList <+: text.toList := by
    refine List.IsPrefix.trans ?_ begins
    rw [starts, String.toList_singleton]
    exact List.prefix_append [c] more
  exact isPlain_of_begins _ capital (beginsPlain_upper upper) ends unbroken

theorem PlainlyNamed.isHeader_configure :
    IsHeader (gem.moduleName ++ ".configure do |config|") := by
  have module := named.module
  obtain ⟨c, more, starts, upper⟩ := named.module_starts
  refine isHeader_do (by decide) ?_ (by simp [module])
  rw [String.toList_append, starts, List.cons_append, List.head?_cons]
  rintro ⟨⟩
  cases upper

theorem PlainlyNamed.name {name : String} (member : name ∈ gem.resourceNames) :
    '\n' ∉ name.toList :=
  newline_not_mem_of_isPlainSymbol (named.resources name member)

theorem balanced_errorSource : Balanced gem.errorSource :=
  balanced_preamble.append (named.balanced_module (balanced_of_isBalanced (by decide)))

theorem balanced_versionSource : Balanced gem.versionSource :=
  balanced_preamble.append (named.balanced_module (balanced_of_isBalanced (by decide)))

theorem balanced_objectSource : Balanced gem.objectSource := by
  refine balanced_preamble.append (.after (by decide) (.afterBlank (named.balanced_module
    (balanced_block (by decide) ?_))))
  refine .after (by decide) (.afterBlank (.after (by decide) (.afterBlank ?_)))
  -- The cases are not a block of the source, but lines that spell one.
  exact balanced_block (by decide) (balanced_of_isBracket (by decide))

theorem balanced_collectionSource : Balanced gem.collectionSource := by
  refine balanced_preamble.append (named.balanced_module (balanced_block (by decide) ?_))
  refine .after (by decide) (.afterBlank (.after (by decide) (.afterBlank ?_)))
  refine (balanced_block_over opensOver_fromResponseSignature ?_).cons
    (balanced_of_isBalanced (by decide))
  -- The first three of these lines spell a condition.
  show Balanced ([_, _, _].map .line ++ _)
  exact (balanced_of_isBracket (by decide)).append (balanced_of_isBalanced (by decide))

theorem balanced_cacheSource : Balanced gem.cacheSource := by
  have lower := newline_not_mem_lowerName named.apiUnbroken
  refine balanced_preamble.append (named.balanced_module ?_)
  refine .after (by decide) (.after (by decide) (.afterBlank (.after (by decide) ?_)))
  refine balanced_block (by decide) ((balanced_method ?_ (by decide)).cons
    (balanced_of_isBalanced (by decide)))
  simp [lower]

theorem PlainlyNamed.stem : '\n' ∉ gem.fileStem.toList :=
  fun member => named.apiUnbroken (mem_of_mem_fileStem (by decide) member)

theorem balanced_entrySource : Balanced gem.entrySource := by
  have inStem := named.stem
  have fixed : ∀ file ∈ baseFiles, '\n' ∉ file.toList := by decide
  refine (((balanced_preamble.append (balanced_requireLines ?base)).append
    (balanced_of_isBalanced (by decide))).append (balanced_requireLines ?resources)).append
      (.afterBlank (named.balanced_module (balanced_of_isBalanced (by decide))))
  case base =>
    intro file member
    simp [inStem, fixed file member]
  case resources =>
    intro name member
    simp [inStem, named.name member]

theorem balanced_resourceReader {name : String} (member : name ∈ gem.resourceNames) :
    Balanced [resourceReader name] := by
  have inName := named.name member
  have inClass := newline_not_mem_className inName
  refine balanced_method inName (List.forall_mem_singleton.mpr ?_)
  exact isPlain_of_ends "@" (by simp) (by decide) (by decide) (by simp [inName, inClass])

theorem balanced_clientSource : Balanced gem.clientSource := by
  have module := named.module
  refine balanced_preamble.append (named.balanced_module (balanced_block (by decide) ?_))
  refine Balanced.append (.after (by decide) (.afterBlank
    (balanced_method (by simp [module]) (by decide)))) (balanced_eachAfterBlank ?_)
  intro item member
  obtain ⟨name, inNames, rfl⟩ := List.mem_map.mp member
  exact balanced_resourceReader named inNames

theorem PlainlyNamed.isPlain_credentialDefaults :
    ∀ text ∈ credentialDefaults gem.api, IsPlain text := by
  have tokenUrl : '\n' ∉ gem.api.tokenUrl.toList := named.settings _ (by simp)
  have header : '\n' ∉ gem.api.apiKeyHeader.toList := named.settings _ (by simp)
  unfold credentialDefaults
  split
  · exact nofun
  · decide
  · refine List.forall_mem_cons.mpr ⟨by decide, List.forall_mem_singleton.mpr ?_⟩
    exact isPlain_behind (by decide) (endsPlain_stringLiteral _) (by simp [header])
  · refine List.forall_mem_cons.mpr ⟨by decide, List.forall_mem_cons.mpr ⟨by decide,
      List.forall_mem_cons.mpr ⟨?_, by decide⟩⟩⟩
    exact isPlain_behind (by decide) (endsPlain_stringLiteral _) (by simp [tokenUrl])

theorem balanced_configurationSource : Balanced gem.configurationSource := by
  have baseUrl : '\n' ∉ gem.api.baseUrl.toList := named.settings _ (by simp)
  refine balanced_preamble.append (named.balanced_module (balanced_block (by decide) ?_))
  refine ((balanced_of_isBalanced (by decide)).append ?attributes).append
    (.afterBlank (balanced_block (by decide) ?settings))
  case attributes => cases gem.api.auth <;> exact balanced_of_isBalanced (by decide)
  case settings =>
    refine .afterLine ?address (.after (by decide) (.after (by decide) (.after (by decide)
      (balanced_lines named.isPlain_credentialDefaults))))
    exact isPlain_behind (by decide) (endsPlain_stringLiteral _) (by simp [baseUrl])

theorem balanced_tokenMethods : Balanced (tokenMethods gem.moduleName gem.lowerName) := by
  have module := named.module
  have lower := newline_not_mem_lowerName named.apiUnbroken
  refine (balanced_block (by decide) ?token).cons (.afterBlank
    ((balanced_block (by decide) ?fetch).cons (.afterBlank (.after (by decide) (.afterBlank
      (balanced_method (by decide) (List.forall_mem_singleton.mpr ?cache)))))))
  case token =>
    refine .after (by decide) (.after (by decide) (.afterBlank (.afterLine ?read
      (.after (by decide) (.afterBlank (.after (by decide) (.afterLine ?write
        (balanced_of_isBalanced (by decide)))))))))
    case read => exact isPlain_around (by decide) (by decide) (by simp [lower])
    case write => exact isPlain_around (by decide) (by decide) (by simp [lower])
  case fetch =>
    refine .after (by decide) (.afterBlank (.after (by decide) (.after (by decide)
      (.after (by decide) (.afterBlank (balanced_line ?_))))))
    exact isPlain_around (by decide) (by decide) (by simp [module])
  case cache => exact isPlain_around (by decide) (by decide) (by simp [module])

theorem balanced_handleResponse : Balanced [handleResponse gem.moduleName] := by
  have module := named.module
  refine balanced_block (by decide) (.after (by decide) (.afterBlank (.after (by decide)
    (.after (by decide) (.afterBlank (balanced_line ?_))))))
  exact isPlain_around (by decide) (by decide) (by simp [module])

theorem balanced_requestSource : Balanced gem.requestSource := by
  have module := named.module
  refine ((balanced_preamble.append (balanced_of_isBalanced (by decide))).append ?libraries).append
    (.afterBlank (named.balanced_module (balanced_block (by decide) ?_)))
  case libraries => cases gem.api.auth <;> exact balanced_of_isBalanced (by decide)
  refine ((Balanced.append ?start (balanced_of_isBalanced (by decide +kernel))).append
    ?inner).append ?tokens
  case start =>
    exact .after (by decide) (.afterBlank (balanced_method (by simp [module]) (by decide)))
  case inner =>
    exact .afterBlank (.after (by decide) (.afterBlank (.after (by decide) (.afterBlank
      ((balanced_connection _).cons (.afterBlank (balanced_handleResponse named)))))))
  case tokens =>
    split
    · exact .afterBlank (balanced_tokenMethods named)
    · exact balanced_nil

theorem isPlain_unwrapExpression {format : ResponseFormat}
    (keys : ∀ key ∈ formatKeys format, '\n' ∉ key.toList) (isCollection : Bool) :
    IsPlain (unwrapExpression gem.moduleName isCollection format) := by
  have oneLine := newline_not_mem_unwrapExpression named.module keys isCollection
  refine named.isPlain_module ?_ ?_ oneLine
  · unfold unwrapExpression collectionExpression objectExpression
    split
    · simp
    · split <;> simp
  · unfold unwrapExpression collectionExpression objectExpression
    split
    · exact endsInDo_of_endsPlain (by decide)
    · split <;> exact endsInDo_of_endsPlain (by decide)

theorem balanced_endpointMethod {format : ResponseFormat} {endpoint : Endpoint}
    (inName : '\n' ∉ endpoint.name.toList) (inPath : '\n' ∉ endpoint.path.toList)
    (keys : ∀ key ∈ formatKeys format, '\n' ∉ key.toList) :
    Balanced [endpointMethod gem.moduleName format endpoint] := by
  have module := named.module
  have signed := newline_not_mem_signature inName inPath
  have interpolated := PathTemplate.newline_not_mem_interpolate inPath
  have called := newline_not_mem_requestCall endpoint
  refine balanced_block (isHeader_opening _ (by decide) (by simpa [signature] using signed))
    (.afterLine ?request (.afterLine ?response (.afterBlank
      (balanced_line (isPlain_unwrapExpression named keys endpoint.isCollection)))))
  case request =>
    exact isPlain_of_ends "request = " (by simp) (by decide) (by decide)
      (by simp [module, interpolated])
  case response =>
    have verb : ∀ c ∈ endpoint.verb.name.toList, isWordChar c = true := by
      cases endpoint.verb <;> exact List.all_eq_true.mp (by decide)
    have spelled : ("request." ++ endpoint.verb.name).toList =
        "request".toList ++ '.' :: endpoint.verb.name.toList := by
      simp
    exact isPlain_of_begins "response" (by simp) (by decide)
      (endsInDo_applied _ _ spelled verb) (by simp [called])

theorem balanced_resourceSource {entry : String × Resource} (member : entry ∈ gem.resources) :
    Balanced (gem.resourceSource entry.1 entry.2) := by
  have inNames : entry.1 ∈ gem.resourceNames := List.mem_map_of_mem member
  have inClass := newline_not_mem_className (named.name inNames)
  refine balanced_preamble.append (named.balanced_module (balanced_block (by decide)
    (balanced_block (isHeader_opening _ (by decide) inClass) ?_)))
  refine (balanced_of_isBalanced (by decide)).append (balanced_eachAfterBlank ?_)
  intro item inMethods
  obtain ⟨endpoint, inEndpoints, rfl⟩ := List.mem_map.mp inMethods
  have inName := newline_not_mem_of_isPlainSymbol
    (named.endpoints entry member endpoint inEndpoints).1
  exact balanced_endpointMethod named inName (named.paths entry member endpoint inEndpoints)
    (named.keys entry member)

end Names

end ClientGem.Gem
