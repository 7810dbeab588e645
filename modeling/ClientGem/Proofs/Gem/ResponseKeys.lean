import ClientGem.Proofs.Gem.ResponseShape
import ClientGem.Proofs.Ruby.Statement

/-!
The expression that takes a response apart, read back. It names the keys that are configured for the
resource or else for the whole API, each as it was configured.
-/

namespace ClientGem.Gem

open Api Ruby

inductive Argument where
  | constant (name : String)
  | text (content : String)
deriving DecidableEq, Repr

def keywordsOf : List Token → Option (List (String × Argument))
  | [.mark ')'] => some []
  | .mark ',' :: .word keyword :: .mark ':' :: .text content :: rest =>
    (keywordsOf rest).map ((keyword, .text content) :: ·)
  | _ => none

/-- The keywords by which a collection is made of a response: first the class of what it holds, and
then texts. Nothing but these stands in the expression. -/
def readCollection (moduleName expression : String) : Option (List (String × Argument)) := do
  let object := moduleName ++ "::Object"
  let start := moduleName ++ "::Collection.from_response(response, type: " ++ object
  let rest ← between? start.toList [] expression.toList
  let keywords ← keywordsOf (← Token.read rest.toList)
  return ("type", .constant object) :: keywords

def readObject (moduleName expression : String) : Option (List Token.Key) := do
  let argument ← between? (moduleName ++ "::Object.new(").toList [] expression.toList
  return Token.keys (← Token.read argument.toList)

section Effect

variable (own : Option ResponseFormat) (whole : ResponseFormat)

/-- The paging of the resource with all its keys, if it has one, and otherwise that of the API. -/
def pagingInEffect : Option Pagination :=
  match own with
  | some { pagination := some paging, .. } => some paging
  | _ => whole.pagination

def collectionRootInEffect : Option String :=
  match own with
  | some { collectionRoot := some root, .. } => some root
  | _ => whole.collectionRoot

def itemRootInEffect : Option String :=
  match own with
  | some { itemRoot := some root, .. } => some root
  | _ => whole.itemRoot

def keysInEffect : List (String × Option String) :=
  [("data_key", collectionRootInEffect own whole),
    ("next_key", (pagingInEffect own whole).bind (·.nextPageKey)),
    ("total_key", (pagingInEffect own whole).bind (·.totalCountKey)),
    ("limit_key", (pagingInEffect own whole).bind (·.limitKey))]

end Effect

section Format

variable (resource : Resource) (whole : ResponseFormat)

theorem collectionKeys_format :
    collectionKeys (resource.format whole) = keysInEffect resource.formatOverride whole := by
  unfold collectionKeys keysInEffect
  unfold Resource.format
  cases resource.formatOverride with
  | none => rfl
  | some own =>
    obtain ⟨collectionRoot, itemRoot, pagination⟩ := own
    cases collectionRoot <;> cases pagination <;> rfl

theorem itemRoot_format :
    (resource.format whole).itemRoot = itemRootInEffect resource.formatOverride whole := by
  unfold Resource.format
  cases resource.formatOverride with
  | none => rfl
  | some own =>
    obtain ⟨collectionRoot, itemRoot, pagination⟩ := own
    cases itemRoot <;> rfl

end Format

theorem keywordsOf_keywordTokens (entries : List (String × String)) :
    keywordsOf (entries.flatMap keywordTokens ++ [.mark ')']) =
      some (entries.map fun entry => (entry.1, .text entry.2)) := by
  induction entries with
  | nil => rfl
  | cons entry entries ih => simp [keywordTokens, keywordsOf, ih]

theorem readCollection_collectionExpression (moduleName : String) (format : ResponseFormat) :
    readCollection moduleName (collectionExpression moduleName format) =
      some (("type", .constant (moduleName ++ "::Object")) ::
        (passedKeys format).map fun entry => (entry.1, .text entry.2)) := by
  rw [collectionExpression_eq, readCollection, ← String.append_assoc]
  simp only [Option.bind_eq_bind, between?_appended, Option.bind_some, String.toList_ofList,
    read_keywordArguments, keywordsOf_keywordTokens]
  rfl

theorem readObject_objectExpression (moduleName : String) (root : Option String) :
    readObject moduleName (objectExpression moduleName root) =
      some (match root with
        | none => []
        | some root => [.symbol root, .text root]) := by
  obtain ⟨argument, tokens, spelled, read, keys⟩ := takesObject_objectExpression moduleName root
  rw [spelled, readObject, between?_appended]
  simp only [Option.bind_eq_bind, Option.bind_some, read]
  cases root with
  | none =>
    rw [keys]
    rfl
  | some root => exact congrArg some keys

/-- A collection is taken by the configured keys and no others, each under its keyword and in this
order, and an object by the symbol and the text of its root. -/
theorem unwrapExpression_read (moduleName : String) (resource : Resource)
    (whole : ResponseFormat) :
    readCollection moduleName (unwrapExpression moduleName true (resource.format whole)) =
      some (("type", .constant (moduleName ++ "::Object")) ::
        (keysInEffect resource.formatOverride whole).filterMap fun (keyword, key) =>
          key.map fun key => (keyword, .text key)) ∧
    readObject moduleName (unwrapExpression moduleName false (resource.format whole)) =
      some (match itemRootInEffect resource.formatOverride whole with
        | none => []
        | some root => [.symbol root, .text root]) := by
  constructor
  · have configured_text (entry : String × Option String) :
        (configured entry).map (fun entry => (entry.1, Argument.text entry.2)) =
          entry.2.map fun key => (entry.1, Argument.text key) := by
      rw [configured, Option.map_map]
      rfl
    rw [unwrapExpression, if_pos rfl, readCollection_collectionExpression, passedKeys,
      List.map_filterMap, collectionKeys_format]
    simp only [configured_text]
  · rw [← itemRoot_format]
    exact readObject_objectExpression moduleName _

/-- The next page of the API is left out, and a key that looks like a keyword stays one key. -/
example : readCollection "Shop" (unwrapExpression "Shop" true
    (Resource.format { formatOverride := some { pagination := some { limitKey := some "a" } } }
      { collectionRoot := some "b\", next_key: \"c",
        pagination := some { nextPageKey := some "d" } })) =
    some [("type", .constant "Shop::Object"), ("data_key", .text "b\", next_key: \"c"),
      ("limit_key", .text "a")] := by
  decide +kernel

end ClientGem.Gem
