import ClientGem.Yaml.Token.Scan

/-!
The tree of a YAML document: scalars, sequences and mappings, with their anchors and tags, and
aliases that name an anchor. Where a text cannot be read on, the tree ends in a leaf that says why.
-/

namespace ClientGem.Yaml

structure Properties where
  anchor : Option String := none
  tag : Option Octets := none
deriving Repr, Inhabited

inductive Node where
  | reference (place : Place) (name : String)
  | scalar (place : Place) (properties : Properties) (text : String) (plain : Bool)
  | seq (place : Place) (properties : Properties) (items : List Node)
  | map (place : Place) (properties : Properties) (entries : List (Node × Node))
  /-- The last leaf of a tree that is cut short. -/
  | refused (fault : Fault)
deriving Repr

namespace Node

def empty : Node :=
  scalar {} {} "" true

abbrev Handles := List (String × Octets)

def defaultHandles : Handles :=
  [("!", octets "!"), ("!!", octets "tag:yaml.org,2002:")]

def expandTag? (handles : Handles) (name : TagName) : Option Octets :=
  if name.handle.isEmpty then some name.suffix
  else (handles.lookup name.handle).map (· ++ name.suffix)

/-- A node and the tokens after it. No tokens are left after a refusal. -/
abbrev Taken := Node × Tokens

def stop (fault : Fault) : Taken :=
  (refused fault, [])

/-- Refuses the first token, unless it is a refusal itself. -/
def refuse (problem : Problem) (context : Option Context) (tokens : Tokens) : Taken :=
  stop (tokens.refusal?.getD (.misread problem tokens.place context))

def absent (tokens : Tokens) : Taken :=
  match tokens.refusal? with
  | some fault => stop fault
  | none => (empty, tokens)

structure WrittenProperties where
  anchor : Option String := none
  tag : Option (TagName × Place) := none

def takeProperties : Tokens → WrittenProperties × Tokens
  | ⟨.anchor anchor, _⟩ :: ⟨.tag tag, place⟩ :: rest
  | ⟨.tag tag, place⟩ :: ⟨.anchor anchor, _⟩ :: rest =>
    ({ anchor := some anchor, tag := some (tag, place) }, rest)
  | ⟨.anchor anchor, _⟩ :: rest => ({ anchor := some anchor }, rest)
  | ⟨.tag tag, place⟩ :: rest => ({ tag := some (tag, place) }, rest)
  | rest => ({}, rest)

def WrittenProperties.expand (handles : Handles) (start : Place) (written : WrittenProperties) :
    Except Fault Properties :=
  match written.tag with
  | none => .ok { anchor := written.anchor }
  | some (name, place) =>
    match expandTag? handles name with
    | some tag => .ok { anchor := written.anchor, tag := some tag }
    | none => .error (.within .node start place .undefinedHandle)

/-- A value after its mark ends where another mark or the end of the block comes. -/
def endsBlockValue : Tokens → Bool
  | ⟨.key, _⟩ :: _ | ⟨.value, _⟩ :: _ | ⟨.blockEnd, _⟩ :: _ => true
  | _ => false

def endsBlockEntry (indentless : Bool) : Tokens → Bool
  | ⟨.blockEntry, _⟩ :: _ | ⟨.blockEnd, _⟩ :: _ => true
  | ⟨.key, _⟩ :: _ | ⟨.value, _⟩ :: _ => indentless
  | _ => false

def endsFlowPair (close : Token) (tokens : Tokens) : Bool :=
  tokens.startsWith .flowEntry || tokens.startsWith close

mutual

/-- A node. In a block, a sequence may stand without indentation of its own where `indentless`
says so. -/
def take (handles : Handles) (block indentless : Bool) (fuel : Nat) (tokens : Tokens) : Taken :=
  let context : Context := ⟨if block then .blockNode else .flowNode, tokens.place⟩
  match fuel, tokens with
  | 0, tokens => refuse .noContent context tokens
  | _ + 1, ⟨.reference name, place⟩ :: rest => (reference place name, rest)
  | fuel + 1, tokens =>
    let start := tokens.place
    let (written, rest) := takeProperties tokens
    match rest.refusal?, written.expand handles start with
    | some fault, _ => stop fault
    | none, .error fault => stop fault
    | none, .ok properties =>
      match block, rest with
      | _, ⟨.scalar text plain, _⟩ :: rest => (scalar start properties text plain, rest)
      | _, ⟨.flowSequenceStart, opened⟩ :: rest =>
        let (items, rest) := takeFlowItems handles opened fuel true rest
        (seq start properties items, rest)
      | _, ⟨.flowMappingStart, opened⟩ :: rest =>
        let (entries, rest) := takeFlowEntries handles opened fuel true rest
        (map start properties entries, rest)
      | true, ⟨.blockSequenceStart, opened⟩ :: rest =>
        let (items, rest) := takeBlockItems handles opened false fuel rest
        (seq start properties items, rest)
      | true, ⟨.blockMappingStart, opened⟩ :: rest =>
        let (entries, rest) := takeBlockEntries handles opened fuel rest
        (map start properties entries, rest)
      | _, rest =>
        if indentless && rest.startsWith .blockEntry then
          let (items, rest) := takeBlockItems handles rest.place true fuel rest
          (seq start properties items, rest)
        else if properties.anchor.isSome || properties.tag.isSome then
          -- properties may stand alone
          (scalar start properties "" true, rest)
        else refuse .noContent context rest

def takeBlockItems (handles : Handles) (opened : Place) (indentless : Bool) (fuel : Nat)
    (tokens : Tokens) : List Node × Tokens :=
  match fuel, tokens with
  | _, [] => ([], [])
  | fuel + 1, ⟨.blockEntry, _⟩ :: rest =>
    let (item, rest) :=
      if endsBlockEntry indentless rest then (empty, rest)
      else take handles true false fuel rest
    let (items, rest) := takeBlockItems handles opened indentless fuel rest
    (item :: items, rest)
  | _ + 1, ⟨.blockEnd, _⟩ :: rest => ([], if indentless then tokens else rest)
  | _, tokens =>
    if indentless && tokens.refusal?.isNone then ([], tokens)
    else ([(refuse .noDash (some ⟨.blockSequence, opened⟩) tokens).1], [])

/-- The entries of a block mapping. A key or a value may be absent. -/
def takeBlockEntries (handles : Handles) (opened : Place) (fuel : Nat) (tokens : Tokens) :
    List (Node × Node) × Tokens :=
  match fuel, tokens with
  | _, [] => ([], [])
  | fuel + 1, ⟨.key, _⟩ :: rest =>
    let (key, rest) :=
      if endsBlockValue rest then (empty, rest) else take handles true true fuel rest
    let (value, rest) :=
      match rest with
      | ⟨.value, _⟩ :: rest =>
        if endsBlockValue rest then (empty, rest) else take handles true true fuel rest
      | rest => absent rest
    let (entries, rest) := takeBlockEntries handles opened fuel rest
    ((key, value) :: entries, rest)
  | _ + 1, ⟨.blockEnd, _⟩ :: rest => ([], rest)
  | _, tokens => ([((refuse .noKey (some ⟨.blockMapping, opened⟩) tokens).1, empty)], [])

/-- The items of a flow sequence. A pair with a key mark is a mapping of one entry. -/
def takeFlowItems (handles : Handles) (opened : Place) (fuel : Nat) (first : Bool)
    (tokens : Tokens) : List Node × Tokens :=
  match fuel, first, tokens with
  | _, _, [] => ([], [])
  | _ + 1, _, ⟨.flowSequenceEnd, _⟩ :: rest => ([], rest)
  | fuel + 1, true, ⟨.key, place⟩ :: rest =>
    -- an absent key takes the mark after it along
    let (key, rest) :=
      match rest with
      | ⟨.value, _⟩ :: rest | ⟨.flowEntry, _⟩ :: rest | ⟨.flowSequenceEnd, _⟩ :: rest =>
        (empty, rest)
      | rest => take handles false false fuel rest
    let (value, rest) :=
      match rest with
      | ⟨.value, _⟩ :: rest =>
        if endsFlowPair .flowSequenceEnd rest then (empty, rest)
        else take handles false false fuel rest
      | rest => absent rest
    let (items, rest) := takeFlowItems handles opened fuel false rest
    (map place {} [(key, value)] :: items, rest)
  | fuel + 1, true, tokens =>
    let (item, rest) := take handles false false fuel tokens
    let (items, rest) := takeFlowItems handles opened fuel false rest
    (item :: items, rest)
  | fuel + 1, false, ⟨.flowEntry, _⟩ :: rest => takeFlowItems handles opened fuel true rest
  | _, _, tokens => ([(refuse .noSequenceEnd (some ⟨.flowSequence, opened⟩) tokens).1], [])

/-- The entries of a flow mapping. An entry without a mark is a key without a value. -/
def takeFlowEntries (handles : Handles) (opened : Place) (fuel : Nat) (first : Bool)
    (tokens : Tokens) : List (Node × Node) × Tokens :=
  match fuel, first, tokens with
  | _, _, [] => ([], [])
  | _ + 1, _, ⟨.flowMappingEnd, _⟩ :: rest => ([], rest)
  | fuel + 1, true, ⟨.key, _⟩ :: rest =>
    let (key, rest) :=
      if Tokens.startsWith .value rest || endsFlowPair .flowMappingEnd rest then (empty, rest)
      else take handles false false fuel rest
    let (value, rest) :=
      match rest with
      | ⟨.value, _⟩ :: rest =>
        if endsFlowPair .flowMappingEnd rest then (empty, rest)
        else take handles false false fuel rest
      | rest => absent rest
    let (entries, rest) := takeFlowEntries handles opened fuel false rest
    ((key, value) :: entries, rest)
  | fuel + 1, true, tokens =>
    let (key, rest) := take handles false false fuel tokens
    let (value, rest) := absent rest
    let (entries, rest) := takeFlowEntries handles opened fuel false rest
    ((key, value) :: entries, rest)
  | fuel + 1, false, ⟨.flowEntry, _⟩ :: rest => takeFlowEntries handles opened fuel true rest
  | _, _, tokens =>
    ([((refuse .noMappingEnd (some ⟨.flowMapping, opened⟩) tokens).1, empty)], [])

end

structure Directives where
  version : Bool := false
  handles : Handles := []

def takeDirectives (seen : Directives) : Tokens → Except Fault (Directives × Tokens)
  | ⟨.directive (.version major minor), place⟩ :: rest =>
    if seen.version then .error (.misread .repeatedVersion place none)
    else if major = 1 ∧ (minor = 1 ∨ minor = 2) then
      takeDirectives { seen with version := true } rest
    else .error (.misread .wrongVersion place none)
  | ⟨.directive (.tag handle expansion), place⟩ :: rest =>
    if (seen.handles.lookup handle).isSome then .error (.misread .repeatedHandle place none)
    else takeDirectives { seen with handles := seen.handles ++ [(handle, expansion)] } rest
  | rest => .ok (seen, rest)

def startsContent : Tokens → Bool
  | [] | ⟨.directive _, _⟩ :: _ | ⟨.documentStart, _⟩ :: _ | ⟨.documentEnd, _⟩ :: _
  | ⟨.streamEnd, _⟩ :: _ => false
  | _ => true

def takeDocument (tokens : Tokens) : Taken :=
  -- between two tokens there are at most two steps
  let fuel := 2 * tokens.length + 2
  match takeDirectives {} tokens with
  | .error fault => stop fault
  | .ok (directives, rest) =>
    let handles := directives.handles ++ defaultHandles
    match rest with
    | ⟨.documentStart, _⟩ :: rest =>
      if startsContent rest then take handles true false fuel rest else absent rest
    | rest =>
      if rest.length < tokens.length then refuse .noDocumentStart none rest
      else take handles true false fuel rest

/-- What is wrong with the tokens after a document: they are unreadable, or there are more than
the marks of its end. -/
def faultAfter (tokens : Tokens) : Option Fault :=
  if tokens.isEmpty then none
  else
    tokens.refusal?.or <|
      if Tokens.startsWith .streamEnd (tokens.dropWhile (·.token == .documentEnd)) then none
      else some .severalDocuments

/-- The first document of a stream, if there is any, and what is wrong after it. -/
def ofTokens? (tokens : Tokens) : Option (Node × Option Fault) :=
  if Tokens.startsWith .streamEnd tokens then none
  else
    let (root, rest) := takeDocument tokens
    some (root, faultAfter rest)

end Node

end ClientGem.Yaml
