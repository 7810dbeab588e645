import ClientGem.Yaml.PlainScalar

/-!
Block scalars: literal ones keep their line breaks, folded ones join lines that are not indented
further. The header may fix the indentation and say what becomes of the breaks at the end.
-/

namespace ClientGem.Yaml

inductive Chomping where
  | strip
  | clip
  | keep
deriving DecidableEq, Repr

structure BlockHeader where
  chomping : Chomping := .clip
  increment : Option Nat := none

def chomping? (c : Char) : Option Chomping :=
  if c = '+' then some .keep else if c = '-' then some .strip else none

/-- The two marks of the header may come in either order. -/
def scanBlockHeader (start : Place) (cursor : Cursor) : Except Fault (BlockHeader × Cursor) :=
  let sign (header : BlockHeader) (cursor : Cursor) : BlockHeader × Cursor × Bool :=
    match cursor.rest.head?.bind chomping? with
    | some chomping => ({ header with chomping }, cursor.skip, true)
    | none => (header, cursor, false)
  let digit (header : BlockHeader) (cursor : Cursor) :
      Except Fault (BlockHeader × Cursor × Bool) :=
    match cursor.rest.head? with
    | some c =>
      if c == '0' then .error (.within .blockScalar start cursor.place .zeroIndentation)
      else if c.isDigit then
        .ok ({ header with increment := some (c.toNat - '0'.toNat) }, cursor.skip, true)
      else .ok (header, cursor, false)
    | none => .ok (header, cursor, false)
  do
    let (header, cursor, signed) := sign {} cursor
    let (header, cursor, counted) ← digit header cursor
    let (header, cursor, _) :=
      if signed || !counted then (header, cursor, true) else sign header cursor
    let cursor := cursor.skipWhile isSpaceOrTab
    let cursor := if cursor.startsWith '#' then cursor.skipWhile (!isBreak ·) else cursor
    match cursor.rest with
    | [] => .ok (header, cursor)
    | c :: _ =>
      if isBreak c then .ok (header, cursor.skipBreak)
      else .error (.within .blockScalar start cursor.place .noLineEnd)

structure Leading where
  /-- The furthest column reached by the spaces at the start of a line. -/
  deepest : Nat
  breaks : List Char
  cursor : Cursor

def scanLeading (start : Place) (rest : List Char) (place : Place) (deepest : Nat)
    (breaks : List Char) : Except Fault Leading :=
  let here := max deepest place.column
  match rest with
  | [] => .ok { deepest := here, breaks, cursor := { rest, place } }
  | ' ' :: after => scanLeading start after (place.right ' ') deepest breaks
  | '\t' :: _ => .error (.within .blockScalar start place .tabInIndentation)
  | '\r' :: '\n' :: after =>
    scanLeading start after (place.nextLine ['\r', '\n']) here (breaks ++ ['\n'])
  | c :: after =>
    if isBreak c then
      scanLeading start after (place.nextLine [c]) here (breaks ++ [keptBreak c])
    else .ok { deepest := here, breaks, cursor := { rest, place } }

structure BlockText where
  /-- The text so far, last character first. -/
  written : List Char := []
  leadingBreak : List Char := []
  trailingBreaks : List Char := []
  /-- The line before began with a blank, so that it is not joined to the next. -/
  afterBlank : Bool := false
  inLine : Bool := false

namespace BlockText

def beginLine (folds : Bool) (c : Char) (text : BlockText) : BlockText :=
  let blank := isSpaceOrTab c
  let joint :=
    if folds && text.leadingBreak == ['\n'] && !text.afterBlank && !blank then
      if text.trailingBreaks.isEmpty then [' '] else []
    else text.leadingBreak
  { written := c :: ((joint ++ text.trailingBreaks).reverse ++ text.written),
    leadingBreak := [], trailingBreaks := [], afterBlank := blank, inLine := true }

def addBreak (c : Char) (text : BlockText) : BlockText :=
  if text.inLine then { text with leadingBreak := [keptBreak c], inLine := false }
  else { text with trailingBreaks := text.trailingBreaks ++ [keptBreak c] }

def chomped (chomping : Chomping) (text : BlockText) : List Char :=
  text.written.reverse ++
    match chomping with
    | .strip => []
    | .clip => text.leadingBreak
    | .keep => text.leadingBreak ++ text.trailingBreaks

end BlockText

def scanBlockLines (start : Place) (folds : Bool) (indent : Nat) (rest : List Char)
    (place : Place) (text : BlockText) : Except Fault (BlockText × Cursor) :=
  match rest with
  | [] => .ok (text, { rest, place })
  | '\r' :: '\n' :: after =>
    scanBlockLines start folds indent after (place.nextLine ['\r', '\n']) (text.addBreak '\n')
  | c :: after =>
    if isBreak c then
      scanBlockLines start folds indent after (place.nextLine [c]) (text.addBreak c)
    else if text.inLine then
      scanBlockLines start folds indent after (place.right c)
        { text with written := c :: text.written }
    else if c == ' ' && place.column < indent then
      scanBlockLines start folds indent after (place.right c) text
    else if c == '\t' && place.column < indent then
      .error (.within .blockScalar start place .tabInIndentation)
    else if place.column == indent then
      scanBlockLines start folds indent after (place.right c) (text.beginLine folds c)
    else .ok (text, { rest, place })

/-- The cursor stands on the indicator; `parent` is the indentation of the block around. -/
def Cursor.scanBlock (folds : Bool) (parent : Int) (cursor : Cursor) : Except Fault Scanned := do
  let start := cursor.place
  let (header, cursor) ← scanBlockHeader start cursor.skip
  let (indent, breaks, cursor) ←
    match header.increment with
    | some n => pure ((max parent 0).toNat + n, [], cursor)
    | none => do
      let leading ← scanLeading start cursor.rest cursor.place 0 []
      pure (max leading.deepest (max (parent + 1).toNat 1), leading.breaks, leading.cursor)
  let (text, cursor) ←
    scanBlockLines start folds indent cursor.rest cursor.place { trailingBreaks := breaks }
  .ok { text := text.chomped header.chomping, cursor }

end ClientGem.Yaml
