/-!
Characters of a YAML stream, the place reached in one, and the white space between the words of a
scalar. Within a line white space is kept; a line break becomes a space, and further breaks stay
breaks.
-/

namespace ClientGem.Yaml

def isAllowed (c : Char) : Bool :=
  let n := c.toNat
  n == 0x09 || n == 0x0A || n == 0x0D || (0x20 ≤ n && n ≤ 0x7E) || n == 0x85 ||
    (0xA0 ≤ n && n ≤ 0xD7FF) || (0xE000 ≤ n && n ≤ 0xFFFD) || 0x10000 ≤ n

def isSpaceOrTab (c : Char) : Bool :=
  c == ' ' || c == '\t'

def isBreak (c : Char) : Bool :=
  c == '\n' || c == '\r' || c == '\x85' || c == '\u2028' || c == '\u2029'

def isGap (c : Char) : Bool :=
  isSpaceOrTab c || isBreak c

def isWordChar (c : Char) : Bool :=
  c.isAlphanum || c == '_' || c == '-'

def isFlowIndicator (c : Char) : Bool :=
  c == ',' || c == '[' || c == ']' || c == '\x7b' || c == '\x7d'

/-- How a line break is kept: only the two separators of Unicode stay what they are. -/
def keptBreak (c : Char) : Char :=
  if c == '\u2028' || c == '\u2029' then c else '\n'

def atGap : List Char → Bool
  | [] => true
  | c :: _ => isGap c

def atGapAfter (n : Nat) (rest : List Char) : Bool :=
  atGap (rest.drop n)

/-- Three marks alone on the line, which begin or end a document. -/
def atDocumentMark (mark : Char) (rest : List Char) : Bool :=
  [mark, mark, mark].isPrefixOf rest && atGapAfter 3 rest

structure Place where
  /-- Octets of UTF-8 before the place. -/
  index : Nat := 0
  line : Nat := 0
  column : Nat := 0
deriving DecidableEq, Repr, Inhabited

namespace Place

def right (place : Place) (c : Char) : Place :=
  { place with index := place.index + c.utf8Size, column := place.column + 1 }

def past (place : Place) (chars : List Char) : Place :=
  chars.foldl right place

def nextLine (place : Place) (chars : List Char) : Place :=
  { index := (place.past chars).index, line := place.line + 1, column := 0 }

def isStart (place : Place) : Bool :=
  place.line == 0 && place.column == 0

def onSameSpot (place other : Place) : Bool :=
  place.line == other.line && place.column == other.column

/-- What a message says of a place; that of the first character goes without saying. -/
def mention (place : Place) : String :=
  if place.isStart then ""
  else " at line " ++ toString (place.line + 1) ++ " column " ++ toString (place.column + 1)

end Place

structure Cursor where
  rest : List Char
  place : Place := {}
deriving Repr, Inhabited

namespace Cursor

def skip (cursor : Cursor) (n : Nat := 1) : Cursor :=
  { rest := cursor.rest.drop n, place := cursor.place.past (cursor.rest.take n) }

def skipWhile (p : Char → Bool) (cursor : Cursor) : Cursor :=
  { rest := cursor.rest.dropWhile p, place := cursor.place.past (cursor.rest.takeWhile p) }

def span (p : Char → Bool) (cursor : Cursor) : List Char × Cursor :=
  (cursor.rest.takeWhile p, cursor.skipWhile p)

def skipBreak (cursor : Cursor) : Cursor :=
  match cursor.rest with
  | '\r' :: '\n' :: rest => { rest, place := cursor.place.nextLine ['\r', '\n'] }
  | c :: rest =>
    if isBreak c then { rest, place := cursor.place.nextLine [c] } else cursor
  | [] => cursor

def startsWith (c : Char) (cursor : Cursor) : Bool :=
  cursor.rest.head? == some c

def second (cursor : Cursor) : Option Char :=
  cursor.rest[1]?

end Cursor

structure Gap where
  spaces : List Char := []
  firstBreak : List Char := []
  laterBreaks : List Char := []
  crossed : Bool := false
deriving Repr, Inhabited

namespace Gap

def addSpace (gap : Gap) (c : Char) : Gap :=
  if gap.crossed then gap else { gap with spaces := gap.spaces ++ [c] }

def addBreak (gap : Gap) (c : Char) : Gap :=
  if gap.crossed then { gap with laterBreaks := gap.laterBreaks ++ [keptBreak c] }
  else { spaces := [], firstBreak := [keptBreak c], laterBreaks := [], crossed := true }

def escaped : Gap :=
  { crossed := true }

def folded (gap : Gap) : List Char :=
  if gap.crossed then
    if gap.firstBreak = ['\n'] then
      if gap.laterBreaks.isEmpty then [' '] else gap.laterBreaks
    else gap.firstBreak ++ gap.laterBreaks
  else gap.spaces

end Gap

end ClientGem.Yaml
