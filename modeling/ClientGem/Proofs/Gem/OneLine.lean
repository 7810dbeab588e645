import ClientGem.Gem.Files
import ClientGem.Proofs.PathTemplate.Substitution
import ClientGem.Proofs.Ruby.Name
import ClientGem.Proofs.Ruby.Value

/-!
Texts of generated code that are one line, since what they are made from is. This is asked of the
names, the paths and the keys of a configuration; literals and calls keep it.
-/

namespace ClientGem

open Ruby

namespace Text

theorem mem_of_mem_replaceChars {c : Char} {pattern image text : List Char}
    (member : c ∈ replaceChars pattern image text) : c ∈ image ∨ c ∈ text := by
  fun_induction replaceChars pattern image text with
  | case1 => exact .inr member
  | case2 => exact .inr member
  | case3 d rest nonempty begins ih =>
    rcases List.mem_append.mp member with inImage | behind
    · exact .inl inImage
    · exact (ih behind).imp_right List.mem_of_mem_drop
  | case4 d rest nonempty differs ih =>
    rcases List.mem_cons.mp member with same | behind
    · exact .inr (List.mem_cons.mpr (.inl same))
    · exact (ih behind).imp_right (List.mem_cons_of_mem d)

end Text

namespace Ruby

theorem mem_escapeChars {c : Char} (special : c ≠ '\\') {text : List Char} :
    c ∈ escapeChars text ↔ c ∈ text := by
  unfold escapeChars
  rw [List.mem_flatMap]
  constructor
  · rintro ⟨d, inText, inEscape⟩
    split at inEscape <;> simp_all
  · intro inText
    refine ⟨c, inText, ?_⟩
    split <;> simp

@[simp] theorem newline_mem_stringLiteral (text : String) :
    '\n' ∈ (stringLiteral text).toList ↔ '\n' ∈ text.toList := by
  simp [stringLiteral, escape, mem_escapeChars (show '\n' ≠ '\\' by decide)]

theorem newline_not_mem_symbolLiteral {text : String} (unbroken : '\n' ∉ text.toList) :
    '\n' ∉ (symbolLiteral text).toList := by
  unfold symbolLiteral
  split <;> simp [unbroken]

@[simp] theorem newline_mem_braced (text : String) :
    '\n' ∈ (braced text).toList ↔ '\n' ∈ text.toList := by
  simp [braced]

theorem newline_not_mem_className {name : String} (unbroken : '\n' ∉ name.toList) :
    '\n' ∉ (className name).toList := by
  unfold className
  rw [String.toList_ofList]
  exact newline_not_mem_capitalizeChars unbroken

theorem not_mem_intercalate {c : Char} {separator : List Char} {pieces : List (List Char)}
    (inSeparator : c ∉ separator) (each : ∀ piece ∈ pieces, c ∉ piece) :
    c ∉ List.intercalate separator pieces := by
  induction pieces with
  | nil => simp
  | cons piece pieces ih =>
    have here := each piece List.mem_cons_self
    have behind := ih fun other member => each other (.tail _ member)
    cases pieces with
    | nil => simpa using here
    | cons other pieces =>
      rw [List.intercalate_cons_cons, List.mem_append, List.mem_append, not_or, not_or]
      exact ⟨⟨here, inSeparator⟩, behind⟩

theorem newline_not_mem_applied {name : String} {args : List String}
    (inName : '\n' ∉ name.toList) (each : ∀ arg ∈ args, '\n' ∉ arg.toList) :
    '\n' ∉ (applied name args).toList := by
  have joined : '\n' ∉ (", ".intercalate args).toList := by
    rw [String.toList_intercalate]
    exact not_mem_intercalate (by decide) (List.forall_mem_map.mpr each)
  unfold applied
  split
  · exact inName
  · simp only [String.toList_append, List.mem_append, not_or]
    exact ⟨⟨⟨inName, by decide⟩, joined⟩, by decide⟩

theorem newline_not_mem_of_isPlainSymbol {name : String} (plain : isPlainSymbol name = true) :
    '\n' ∉ name.toList :=
  fun member => absurd ((Token.wordChars_of_isPlainSymbol plain).2 _ member) (by decide)

end Ruby

namespace PathTemplate

theorem newline_not_mem_interpolate {path : String} (unbroken : '\n' ∉ path.toList) :
    '\n' ∉ (interpolate path).toList := by
  unfold interpolate
  rw [String.toList_ofList, List.mem_flatMap]
  rintro ⟨segment, member, inSegment⟩
  apply unbroken
  rw [← fill_placeholderText path, fill, List.mem_flatMap]
  refine ⟨segment, member, ?_⟩
  cases segment with
  | literal text => exact (mem_escapeChars (by decide)).mp inSegment
  | placeholder name => simpa [interpolateSegment, fillSegment, placeholderText] using inSegment

theorem newline_not_mem_substitute {path : String} {values : List (String × String)}
    (unbroken : '\n' ∉ path.toList) (each : ∀ pair ∈ values, '\n' ∉ pair.2.toList) :
    '\n' ∉ (substitute path values).toList := by
  unfold substitute
  rw [String.toList_ofList]
  generalize path.toList = text at unbroken
  induction values generalizing text with
  | nil => exact unbroken
  | cons pair values ih =>
    refine ih (fun other member => each other (.tail _ member)) _ ?_
    intro member
    rcases Text.mem_of_mem_replaceChars member with inValue | inText
    · exact each pair List.mem_cons_self inValue
    · exact unbroken inText

theorem newline_not_mem_params {path name : String} (unbroken : '\n' ∉ path.toList)
    (member : name ∈ params path) : '\n' ∉ name.toList := by
  intro inName
  apply unbroken
  rw [← fill_placeholderText path, fill, List.mem_flatMap]
  exact ⟨.placeholder name.toList, mem_params.mp member, by
    simp [fillSegment, placeholderText, inName]⟩

end PathTemplate

namespace Gem

open Api

theorem newline_not_mem_address {gem : Gem} {path : String}
    (inBase : '\n' ∉ gem.api.baseUrl.toList) (inPath : '\n' ∉ path.toList) :
    '\n' ∉ (gem.address path).toList := by
  have base : '\n' ∉ (Config.withoutTrailingSlashes gem.api.baseUrl).toList := by
    unfold Config.withoutTrailingSlashes Unicode.dropEndWhile
    rw [String.toList_ofList, List.mem_reverse]
    intro member
    exact inBase (List.mem_reverse.mp ((List.dropWhile_sublist _).subset member))
  have below : '\n' ∉ path.toList.dropWhile (· == '/') :=
    fun member => inPath ((List.dropWhile_sublist _).subset member)
  unfold address
  simp [base, below]

theorem newline_not_mem_testAddress {gem : Gem} {endpoint : Endpoint}
    (inBase : '\n' ∉ gem.api.baseUrl.toList) (inPath : '\n' ∉ endpoint.path.toList) :
    '\n' ∉ (gem.testAddress endpoint).toList := by
  unfold testAddress
  apply newline_not_mem_address inBase
  apply PathTemplate.newline_not_mem_substitute inPath
  intro pair member
  obtain ⟨name, -, rfl⟩ := List.mem_map.mp member
  show '\n' ∉ sampleValue.toList
  decide

theorem newline_not_mem_lowerName {gem : Gem} (inName : '\n' ∉ gem.apiName.toList) :
    '\n' ∉ gem.lowerName.toList := by
  unfold lowerName Unicode.lowercase
  rw [String.toList_ofList]
  exact Unicode.newline_not_mem_lowerFrom [] (newline_not_mem_moduleName inName)

theorem newline_not_mem_signature {endpoint : Endpoint} (inName : '\n' ∉ endpoint.name.toList)
    (inPath : '\n' ∉ endpoint.path.toList) : '\n' ∉ (signature endpoint).toList := by
  have each : ∀ declaration ∈ declarations endpoint, '\n' ∉ declaration.toList := by
    intro declaration member
    obtain ⟨parameter, inParameters, rfl⟩ := List.mem_map.mp member
    cases parameter with
    | path name =>
      have inParams : name ∈ PathTemplate.params endpoint.path := by
        simpa [parameters] using inParameters
      exact PathTemplate.newline_not_mem_params inPath inParams
    | query => decide
    | body => decide
  have whole := newline_not_mem_applied inName each
  simp [signature, whole]

/-- A request is called with keywords that do not depend on the endpoint. -/
theorem newline_not_mem_requestCall (endpoint : Endpoint) :
    '\n' ∉ (requestCall endpoint).toList := by
  have verb : '\n' ∉ ("request." ++ endpoint.verb.name).toList := by
    cases endpoint.verb <;> decide
  apply newline_not_mem_applied verb
  intro argument member
  obtain ⟨keyword, inKeywords, rfl⟩ := List.mem_map.mp member
  obtain ⟨parameter, -, found⟩ := List.mem_filterMap.mp inKeywords
  cases parameter <;> cases found <;> decide

def formatKeys (format : ResponseFormat) : List String :=
  format.itemRoot.toList ++ (collectionKeys format).filterMap Prod.snd

/-- No name, no path and no key of a response goes over more than one line. -/
structure NamesUnbroken (gem : Gem) : Prop where
  api : '\n' ∉ gem.apiName.toList
  resources : ∀ name ∈ gem.resourceNames, '\n' ∉ name.toList
  endpoints : ∀ entry ∈ gem.resources, ∀ endpoint ∈ entry.2.endpoints,
    '\n' ∉ endpoint.name.toList ∧ '\n' ∉ endpoint.path.toList
  keys : ∀ entry ∈ gem.resources, ∀ key ∈ formatKeys (entry.2.format gem.api.responseFormat),
    '\n' ∉ key.toList

theorem newline_not_mem_collectionArguments {moduleName : String} {format : ResponseFormat}
    (inModule : '\n' ∉ moduleName.toList)
    (keys : ∀ key ∈ formatKeys format, '\n' ∉ key.toList) :
    ∀ argument ∈ collectionArguments moduleName format, '\n' ∉ argument.toList := by
  intro argument member
  rcases List.mem_cons.mp member with rfl | configured
  · simp [inModule]
  · obtain ⟨⟨keyword, key⟩, inKeys, found⟩ := List.mem_filterMap.mp configured
    obtain ⟨text, rfl, rfl⟩ := Option.map_eq_some_iff.mp found
    have inText : '\n' ∉ text.toList :=
      keys text (List.mem_append_right _ (List.mem_filterMap.mpr ⟨_, inKeys, rfl⟩))
    have fixed : ∀ entry ∈ collectionKeys format, '\n' ∉ entry.1.toList := by
      simp [collectionKeys]
    have inKeyword : '\n' ∉ keyword.toList := fixed _ inKeys
    simp [inKeyword, inText]

theorem newline_not_mem_unwrapExpression {moduleName : String} {format : ResponseFormat}
    (inModule : '\n' ∉ moduleName.toList)
    (keys : ∀ key ∈ formatKeys format, '\n' ∉ key.toList) (isCollection : Bool) :
    '\n' ∉ (unwrapExpression moduleName isCollection format).toList := by
  unfold unwrapExpression
  split
  · have arguments : '\n' ∉ (", ".intercalate (collectionArguments moduleName format)).toList := by
      rw [String.toList_intercalate]
      exact not_mem_intercalate (by decide)
        (List.forall_mem_map.mpr (newline_not_mem_collectionArguments inModule keys))
    unfold collectionExpression
    simp only [String.toList_append, List.mem_append, not_or]
    exact ⟨⟨⟨inModule, by decide⟩, arguments⟩, by decide⟩
  · unfold objectExpression
    split
    · next root found =>
      have inRoot : '\n' ∉ root.toList :=
        keys root (List.mem_append_left _ (by simp [found]))
      simp [inModule, inRoot, newline_not_mem_symbolLiteral inRoot]
    · simp [inModule]

theorem newline_not_mem_sampleBody {format : ResponseFormat}
    (keys : ∀ key ∈ formatKeys format, '\n' ∉ key.toList) (isCollection : Bool) :
    '\n' ∉ (sampleBody isCollection format).toList := by
  have item : '\n' ∉ sampleItem.toList := by decide
  have orDefault (key : Option String) (given : ∀ text ∈ key, '\n' ∉ text.toList)
      {default : String} (fixed : '\n' ∉ default.toList) : '\n' ∉ (key.getD default).toList := by
    cases key with
    | none => exact fixed
    | some text => exact given text rfl
  have data : '\n' ∉ (format.collectionRoot.getD defaultDataKey).toList :=
    orDefault _ (fun text found => keys text (by simp_all [formatKeys, collectionKeys])) (by decide)
  have next : '\n' ∉ (format.nextPageKey.getD defaultNextKey).toList :=
    orDefault _ (fun text found => keys text (by simp_all [formatKeys, collectionKeys])) (by decide)
  unfold sampleBody
  split
  · simp [item, data, next]
  · split
    · next root found =>
      have inRoot : '\n' ∉ root.toList :=
        keys root (List.mem_append_left _ (by simp [found]))
      simp [item, inRoot]
    · exact item

theorem newline_not_mem_endpointTestName (resource : String) (endpoint : Endpoint) :
    '\n' ∉ (endpointTestName resource endpoint).toList := by
  have safe (name : String) : '\n' ∉ (methodSafe name).toList := by
    unfold methodSafe
    rw [String.toList_ofList, List.mem_map]
    rintro ⟨c, -, same⟩
    split at same
    · next word => rw [same] at word; cases word
    · cases same
  simp [endpointTestName, safe]

end Gem

end ClientGem
