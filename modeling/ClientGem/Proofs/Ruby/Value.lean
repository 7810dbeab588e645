import ClientGem.Proofs.Ruby.Token

/-!
What the tokens of an expression say: the value of a literal, the keywords that are given texts, and
the keys by which something is looked up.
-/

namespace ClientGem.Ruby

/-- The value of a literal. Words, such as numbers, stand for themselves. -/
inductive Value where
  | word (name : String)
  | text (content : String)
  | list (items : List Value)
  | hash (entries : List (String × Value))

namespace Value

inductive Frame where
  | list (items : List Value)
  | entry (entries : List (String × Value)) (key : String)

inductive State where
  | empty (frames : List Frame)
  | read (value : Value) (frames : List Frame)
  /-- A hash in which an entry is to come. -/
  | opened (entries : List (String × Value)) (frames : List Frame)
  | keyed (entries : List (String × Value)) (key : String) (frames : List Frame)
  /-- Half of the arrow behind a key. -/
  | arrow (entries : List (String × Value)) (key : String) (frames : List Frame)

def step : State → Token → Option State
  | .empty frames, .word name => some (.read (.word name) frames)
  | .empty frames, .text content => some (.read (.text content) frames)
  | .empty frames, .mark '[' => some (.empty (.list [] :: frames))
  | .empty frames, .mark '\x7b' => some (.opened [] frames)
  | .opened entries frames, .text key => some (.keyed entries key frames)
  | .keyed entries key frames, .mark '=' => some (.arrow entries key frames)
  | .arrow entries key frames, .mark '>' => some (.empty (.entry entries key :: frames))
  | .read item (.list items :: frames), .mark ',' =>
    some (.empty (.list (items ++ [item]) :: frames))
  | .read item (.list items :: frames), .mark ']' => some (.read (.list (items ++ [item])) frames)
  | .read value (.entry entries key :: frames), .mark ',' =>
    some (.opened (entries ++ [(key, value)]) frames)
  | .read value (.entry entries key :: frames), .mark '\x7d' =>
    some (.read (.hash (entries ++ [(key, value)])) frames)
  | _, _ => none

/-- The value of a literal; lists and hashes with nothing in them are not read. -/
def ofTokens (tokens : List Token) : Option Value := do
  match ← tokens.foldlM step (.empty []) with
  | .read value [] => some value
  | _ => none

def ofLiteral (literal : String) : Option Value :=
  (Token.read literal.toList).bind ofTokens

/-- What a hash holds under a key: the last of its entries with the key. -/
def find (key : String) : Value → Option Value
  | .hash entries => (entries.reverse.find? (·.1 = key)).map Prod.snd
  | _ => none

end Value

namespace Token

def keywordTexts : List Token → List (String × String)
  | .word keyword :: .mark ':' :: .text content :: rest => (keyword, content) :: keywordTexts rest
  | _ :: rest => keywordTexts rest
  | [] => []

inductive Key where
  | symbol (name : String)
  | text (content : String)
deriving DecidableEq

def keys : List Token → List Key
  | .mark '[' :: .text content :: .mark ']' :: rest => .text content :: keys rest
  | .mark '[' :: .mark ':' :: .word name :: .mark ']' :: rest => .symbol name :: keys rest
  | .mark '[' :: .mark ':' :: .text name :: .mark ']' :: rest => .symbol name :: keys rest
  | _ :: rest => keys rest
  | [] => []

def ofSymbol (name : String) : Token :=
  if isPlainSymbol name then .word name else .text name

theorem wordChars_of_isPlainSymbol {name : String} (plain : isPlainSymbol name = true) :
    name.toList ≠ [] ∧ ∀ c ∈ name.toList, isWordChar c = true := by
  unfold isPlainSymbol at plain
  cases chars : name.toList with
  | nil => simp [chars] at plain
  | cons c rest =>
    obtain ⟨start, others⟩ : isWordStart c = true ∧ ∀ d ∈ rest, isWordChar d = true := by
      simpa [chars] using plain
    refine ⟨List.cons_ne_nil c rest, ?_⟩
    rintro d (_ | ⟨_, member⟩)
    · unfold isWordStart at start
      unfold isWordChar Char.isAlphanum
      grind
    · exact others d member

theorem reads_symbolLiteral (name : String) :
    Reads (.code []) ((symbolLiteral name).toList ++ [']'])
      [.mark ':', ofSymbol name, .mark ']'] (.code []) := by
  have colon : Reads (.code []) [':'] [.mark ':'] (.code []) := by decide
  unfold symbolLiteral ofSymbol
  by_cases plain : isPlainSymbol name = true
  · obtain ⟨ne_nil, each⟩ := wordChars_of_isPlainSymbol plain
    have word : Reads (.code []) name.toList [] (.code name.toList.reverse) := by
      simpa using reads_word [] each
    have ended : endWord name.toList.reverse = [.word name] := by
      simp [endWord, ne_nil]
    have bracket : Reads (.code name.toList.reverse) [']'] [.word name, .mark ']'] (.code []) := by
      simp [Reads, run, step, isWordChar, ended]
    simpa [plain] using (colon.append word).append bracket
  · have bracket : Reads (.code []) [']'] [.mark ']'] (.code []) := by decide
    simpa [plain] using (colon.append (reads_stringLiteral [] name)).append bracket

theorem keys_symbol (name : String) (rest : List Token) :
    keys (.mark '[' :: .mark ':' :: ofSymbol name :: .mark ']' :: rest) =
      .symbol name :: keys rest := by
  unfold ofSymbol
  split <;> simp [keys]

end Token

end ClientGem.Ruby
