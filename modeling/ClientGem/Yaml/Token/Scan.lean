import ClientGem.Yaml.BlockScalar
import ClientGem.Yaml.QuotedScalar
import ClientGem.Yaml.Token.Basic

/-!
How a text is cut into tokens. Indentation is turned into tokens that open and close blocks. A key
without a mark is known only when its colon is met, so the place of every word that may turn out
to be one is kept, and the tokens for it are put in there afterwards.
-/

namespace ClientGem.Yaml

/-- A place where a key may have begun. A required one cannot turn out to be anything else. -/
structure PossibleKey where
  required : Bool
  /-- How many tokens come before the key. -/
  position : Nat
  place : Place
deriving Repr

/-- A key lies on one line, and its colon comes within 1024 octets. -/
def PossibleKey.isStale (key : PossibleKey) (place : Place) : Bool :=
  key.place.line < place.line || key.place.index + 1024 < place.index

/-- What remains at `place` of a key that no colon can follow any more. -/
def PossibleKey.giveUp (place : Place) (key : PossibleKey) : Except Fault (Option PossibleKey) :=
  if key.required then .error (.within .simpleKey key.place place .missingColon) else .ok none

structure Scanner where
  cursor : Cursor
  /-- The tokens so far, the last one first. -/
  tokens : List PlacedToken := []
  count : Nat := 0
  /-- The column of the innermost block, or one less than none. -/
  indent : Int := -1
  outerIndents : List Int := []
  keyAllowed : Bool := true
  possibleKey : Option PossibleKey := none
  /-- The keys that the open flow collections may be or begin, the innermost first. -/
  outerKeys : List (Option PossibleKey) := []
  /-- The last of the outer keys. No other of them can be required. -/
  outermostKey : Option PossibleKey := none

namespace Scanner

abbrev Step := Except Fault Scanner

def place (s : Scanner) : Place :=
  s.cursor.place

def inFlow (s : Scanner) : Bool :=
  !s.outerKeys.isEmpty

def push (token : Token) (place : Place) (s : Scanner) : Scanner :=
  { s with tokens := ⟨token, place⟩ :: s.tokens, count := s.count + 1 }

def insertAt (position : Nat) (token : Token) (place : Place) (s : Scanner) : Scanner :=
  { s with
    tokens := s.tokens.insertIdx (s.count - position) ⟨token, place⟩, count := s.count + 1 }

def pushNext (token : Token) (s : Scanner) (n : Nat := 1) : Scanner :=
  { s with cursor := s.cursor.skip n }.push token s.place

def allowKey (allowed : Bool) (s : Scanner) : Scanner :=
  { s with keyAllowed := allowed }

def dropStaleKey (place : Place) : Option PossibleKey → Except Fault (Option PossibleKey)
  | none => .ok none
  | some key => if key.isStale place then key.giveUp place else .ok (some key)

/-- The keys in between are looked at when their collections are closed. -/
def dropStaleKeys (s : Scanner) : Step := do
  let outermostKey ← dropStaleKey s.place s.outermostKey
  let possibleKey ← dropStaleKey s.place s.possibleKey
  .ok { s with outermostKey, possibleKey }

def forgetKey (s : Scanner) : Step := do
  match s.possibleKey with
  | some key => .ok { s with possibleKey := ← key.giveUp s.place }
  | none => .ok s

def noteKey (s : Scanner) : Step :=
  if s.keyAllowed then do
    let required := !s.inFlow && s.indent == (s.place.column : Int)
    let s ← s.forgetKey
    .ok { s with possibleKey := some { required, position := s.count, place := s.place } }
  else .ok s

def indentTo (place : Place) (position : Option Nat) (token : Token) (s : Scanner) : Scanner :=
  if s.inFlow || (place.column : Int) ≤ s.indent then s
  else
    let s := { s with indent := place.column, outerIndents := s.indent :: s.outerIndents }
    match position with
    | some position => s.insertAt position token place
    | none => s.push token place

def closeBlocks (column : Int) (outer : List Int) (s : Scanner) : Scanner :=
  match outer with
  | [] => { s with outerIndents := [] }
  | indent :: rest =>
    if column < s.indent then
      closeBlocks column rest { s.push .blockEnd s.place with indent }
    else { s with outerIndents := outer }

/-- Closes the blocks that begin further in than the column. -/
def dedentTo (column : Int) (s : Scanner) : Scanner :=
  if s.inFlow then s else s.closeBlocks column s.outerIndents

def openFlow (token : Token) (s : Scanner) : Step := do
  let s ← s.noteKey
  let outermostKey := if s.inFlow then s.outermostKey else s.possibleKey
  let outerKeys := s.possibleKey :: s.outerKeys
  .ok (({ s with outerKeys, outermostKey, possibleKey := none }.allowKey true).pushNext token)

def closeFlow (token : Token) (s : Scanner) : Step := do
  let s ← s.forgetKey
  let s :=
    match s.outerKeys with
    | [] => s
    | [_] => { s with possibleKey := s.outermostKey, outerKeys := [], outermostKey := none }
    | key :: rest => { s with possibleKey := key, outerKeys := rest }
  .ok ((s.allowKey false).pushNext token)

def flowEntry (s : Scanner) : Step := do
  .ok (((← s.forgetKey).allowKey true).pushNext .flowEntry)

def blockEntry (s : Scanner) : Step := do
  if !s.inFlow && !s.keyAllowed then .error (.misread .misplacedEntry s.place none)
  let s := s.indentTo s.place none .blockSequenceStart
  .ok (((← s.forgetKey).allowKey true).pushNext .blockEntry)

def explicitKey (s : Scanner) : Step := do
  if !s.inFlow && !s.keyAllowed then .error (.misread .misplacedKey s.place none)
  let s := s.indentTo s.place none .blockMappingStart
  let s ← s.forgetKey
  .ok ((s.allowKey (!s.inFlow)).pushNext .key)

def value (s : Scanner) : Step :=
  match s.possibleKey with
  | some key =>
    let s := s.insertAt key.position .key key.place
    let s := s.indentTo key.place (some key.position) .blockMappingStart
    .ok (({ s with possibleKey := none }.allowKey false).pushNext .value)
  | none =>
    if s.inFlow then .ok ((s.allowKey false).pushNext .value)
    else if s.keyAllowed then
      let s := s.indentTo s.place none .blockMappingStart
      .ok ((s.allowKey true).pushNext .value)
    else .error (.misread .misplacedValue s.place none)

def word (scan : Cursor → Except Fault (Token × Cursor)) (s : Scanner) : Step := do
  let s ← s.noteKey
  let (token, cursor) ← scan s.cursor
  .ok (({ s with cursor }.allowKey false).push token s.place)

def endsAnchor (rest : List Char) : Bool :=
  atGap rest || (rest.head?.any fun c => "?:,]\x7d%@\x60".toList.contains c)

def scanName (activity : Activity) (token : String → Token) (cursor : Cursor) :
    Except Fault (Token × Cursor) :=
  let (name, after) := cursor.skip.span isWordChar
  if name.isEmpty || !endsAnchor after.rest then
    .error (.within activity cursor.place after.place .noName)
  else .ok (token (String.ofList name), after)

def scanTag (inFlow : Bool) (cursor : Cursor) : Except Fault (Token × Cursor) := do
  let (name, after) ← cursor.scanTag
  if after.endsTag inFlow then .ok (.tag name, after)
  else .error (.within .tag cursor.place after.place .noGap)

def quotedScalar (quote : Char) (s : Scanner) : Step :=
  s.word fun cursor => do
    let scanned ← cursor.scanQuoted quote
    .ok (.scalar (String.ofList scanned.text) false, scanned.cursor)

def blockScalar (folds : Bool) (s : Scanner) : Step := do
  let s ← s.forgetKey
  let scanned ← s.cursor.scanBlock folds s.indent
  .ok (({ s with cursor := scanned.cursor }.allowKey true).push
    (.scalar (String.ofList scanned.text) false) s.place)

def plainScalar (s : Scanner) : Step := do
  let s ← s.noteKey
  let scanned ← s.cursor.scanPlain s.inFlow (s.indent + 1)
  .ok (({ s with cursor := scanned.cursor }.allowKey scanned.endsOnNewLine).push
    (.scalar (String.ofList scanned.text) true) s.place)

def directive (s : Scanner) : Step := do
  let s ← (s.dedentTo (-1)).forgetKey
  let (directive, cursor) ← s.cursor.scanDirective
  .ok (({ s with cursor }.allowKey false).push (.directive directive) s.place)

def documentMark (token : Token) (s : Scanner) : Step := do
  let s ← (s.dedentTo (-1)).forgetKey
  .ok ((s.allowKey false).pushNext token 3)

def byteOrderMark : Char := '\ufeff'

/-- Past blanks, comments and line breaks, and past a byte order mark that begins a line. A tab is
no blank where a key may begin. A line break outside flow collections allows a key. -/
def skipToToken (inFlow : Bool) (rest : List Char) (place : Place) (keyAllowed inComment : Bool) :
    Cursor × Bool :=
  match rest with
  | [] => ({ rest, place }, keyAllowed)
  | '\r' :: '\n' :: after =>
    skipToToken inFlow after (place.nextLine ['\r', '\n']) (keyAllowed || !inFlow) false
  | c :: after =>
    if isBreak c then
      skipToToken inFlow after (place.nextLine [c]) (keyAllowed || !inFlow) false
    else if inComment then skipToToken inFlow after (place.right c) keyAllowed true
    else if c == ' ' || (c == '\t' && (inFlow || !keyAllowed)) ||
        (c == byteOrderMark && place.column == 0) then
      skipToToken inFlow after (place.right c) keyAllowed false
    else if c == '#' then skipToToken inFlow after (place.right c) keyAllowed true
    else ({ rest, place }, keyAllowed)

def toToken (s : Scanner) : Scanner :=
  let (cursor, keyAllowed) :=
    skipToToken s.inFlow s.cursor.rest s.place s.keyAllowed false
  { s with cursor, keyAllowed }

def isReserved (c : Char) : Bool :=
  "-?:,[]\x7b\x7d#&*!|>'\"%@\x60".toList.contains c

def takeToken (c : Char) (after : List Char) (s : Scanner) : Step :=
  let lineStart := s.place.column == 0
  let rest := s.cursor.rest
  if lineStart && c == '%' then s.directive
  else if lineStart && atDocumentMark '-' rest then s.documentMark .documentStart
  else if lineStart && atDocumentMark '.' rest then s.documentMark .documentEnd
  else if c == '[' then s.openFlow .flowSequenceStart
  else if c == '\x7b' then s.openFlow .flowMappingStart
  else if c == ']' then s.closeFlow .flowSequenceEnd
  else if c == '\x7d' then s.closeFlow .flowMappingEnd
  else if c == ',' then s.flowEntry
  else if c == '-' && atGap after then s.blockEntry
  else if c == '?' && (s.inFlow || atGap after) then s.explicitKey
  else if c == ':' && (s.inFlow || atGap after) then s.value
  else if c == '*' then s.word (scanName .reference .reference)
  else if c == '&' then s.word (scanName .anchor .anchor)
  else if c == '!' then s.word (scanTag s.inFlow)
  else if c == '|' && !s.inFlow then s.blockScalar false
  else if c == '>' && !s.inFlow then s.blockScalar true
  else if c == '\'' || c == '"' then s.quotedScalar c
  else if !(isGap c || isReserved c) || (c == '-' && !(after.head?.any isSpaceOrTab)) ||
      (!s.inFlow && (c == '?' || c == ':') && !atGap after) then
    s.plainScalar
  else .error (.within .nextToken s.place s.place .noToken)

def finish (s : Scanner) : Step := do
  let place := if s.place.column = 0 then s.place else s.place.nextLine []
  let s ← ({ s with cursor := { s.cursor with place } }.dedentTo (-1)).forgetKey
  .ok (s.push .streamEnd place)

def step (s : Scanner) : Step := do
  let s ← s.toToken.dropStaleKeys
  let s := s.dedentTo s.place.column
  let s ←
    match s.cursor.rest with
    | [] => s.finish
    | c :: after => s.takeToken c after
  s.dropStaleKeys

/-- How many tokens are certain: nothing can be put before them any more. -/
def certain (s : Scanner) : Nat :=
  let keys := (s.possibleKey :: s.outerKeys).filterMap id
  ((keys.filter fun key => !key.isStale s.place).map (·.position)).foldl min s.count

def stopped (fault : Fault) (s : Scanner) : Tokens :=
  (s.tokens.drop (s.count - s.certain)).reverse ++ [⟨.refused fault, s.place⟩]

/-- Every step but the last takes a character, so `fuel` steps suffice for a text of fewer
characters. -/
def run : Nat → Scanner → Tokens
  | 0, s => s.tokens.reverse
  | fuel + 1, s =>
    match s.step with
    | .error fault => s.stopped fault
    | .ok next =>
      match next.tokens with
      | ⟨.streamEnd, _⟩ :: _ => next.tokens.reverse
      | _ => run fuel next

end Scanner

def forbiddenIndex? (chars : List Char) : Option Nat :=
  if chars.all isAllowed then none
  else some (Place.past {} (chars.takeWhile isAllowed)).index

def tokens (source : String) : Tokens :=
  let rest := source.toList
  match forbiddenIndex? rest with
  | some index => [⟨.refused (.forbiddenCharacter index), {}⟩]
  | none => Scanner.run (rest.length + 1) { cursor := { rest } }

end ClientGem.Yaml
