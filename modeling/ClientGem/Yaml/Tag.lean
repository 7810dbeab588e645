import ClientGem.Yaml.Fault
import ClientGem.Yaml.QuotedScalar

/-!
Tags and the directives that shorten them. A tag is a handle, which a directive may map to a
longer text, followed by a suffix of URI characters; its text is kept as octets, because any octet
may be written as an escape. An escaped null ends the text of the part that it stands in.
-/

namespace ClientGem.Yaml

abbrev Octets := List UInt8

def octets (s : String) : Octets :=
  s.toUTF8.toList

structure TagName where
  handle : String
  suffix : Octets
deriving DecidableEq, Repr

def isUriChar (c : Char) : Bool :=
  isWordChar c || ";/?:@&=+$.%!~*'()".toList.contains c

/-- Inside angle brackets and in directives a few indicators are URI characters too. -/
def isVerbatimUriChar (c : Char) : Bool :=
  isUriChar c || c == ',' || c == '[' || c == ']'

def octetCount (first : Nat) : Option Nat :=
  if first < 0x80 then some 1
  else if first / 0x20 = 0x6 then some 2
  else if first / 0x10 = 0xE then some 3
  else if first / 0x8 = 0x1E then some 4
  else none

def escapedOctet? : List Char → Option Nat
  | '%' :: a :: b :: _ => hexNumber? [a, b]
  | _ => none

/-- `pending` counts the octets that the character begun by the last escape still lacks. -/
def scanUri (allowed : Char → Bool) (context : Context) (rest : List Char) (place : Place)
    (taken : Octets) (pending : Nat) : Except Fault (Octets × Cursor) :=
  match rest with
  | [] =>
    if pending = 0 then .ok (taken.reverse, { rest, place })
    else .error (.misread .noUriEscape place context)
  | c :: after =>
    if pending ≠ 0 ∨ c = '%' then
      match escapedOctet? (c :: after) with
      | none => .error (.misread .noUriEscape place context)
      | some octet =>
        let next := place.past (c :: after.take 2)
        if pending = 0 then
          match octetCount octet with
          | none => .error (.misread .badFirstOctet place context)
          | some count =>
            scanUri allowed context (after.drop 2) next (octet.toUInt8 :: taken) (count - 1)
        else if octet / 0x40 = 0x2 then
          scanUri allowed context (after.drop 2) next (octet.toUInt8 :: taken) (pending - 1)
        else .error (.misread .badLaterOctet place context)
    else if allowed c then
      scanUri allowed context after (place.right c) (c.toNat.toUInt8 :: taken) 0
    else .ok (taken.reverse, { rest, place })
termination_by rest.length
decreasing_by all_goals simp; try omega

def Cursor.scanUri (allowed : Char → Bool) (context : Context) (cursor : Cursor) :
    Except Fault (Octets × Cursor) :=
  Yaml.scanUri allowed context cursor.rest cursor.place [] 0

def untilNull (text : Octets) : Octets :=
  text.takeWhile (· != 0)

/-- A text that may not be empty as it is written, though it may be as it is read. -/
def Cursor.scanWrittenUri (allowed : Char → Bool) (context : Context) (cursor : Cursor) :
    Except Fault (Octets × Cursor) := do
  let (text, cursor) ← cursor.scanUri allowed context
  if text.isEmpty then .error (.misread .noUri cursor.place context)
  else .ok (untilNull text, cursor)

def Cursor.scanHandle (context : Context) (cursor : Cursor) :
    Except Fault (List Char × Cursor) :=
  if cursor.startsWith '!' then
    let (letters, cursor) := cursor.skip.span isWordChar
    if cursor.startsWith '!' then .ok ('!' :: letters ++ ['!'], cursor.skip)
    else .ok ('!' :: letters, cursor)
  else .error (.misread .noExclamation cursor.place context)

def Cursor.scanTag (cursor : Cursor) : Except Fault (TagName × Cursor) := do
  let start := cursor.place
  let inText : Context := ⟨.tagText, start⟩
  if cursor.second == some '<' then
    let (suffix, cursor) ← (cursor.skip 2).scanWrittenUri isVerbatimUriChar inText
    if cursor.startsWith '>' then .ok ({ handle := "", suffix }, cursor.skip)
    else .error (.within .tag start cursor.place .noClosingBracket)
  else
    let (handle, cursor) ← cursor.scanHandle ⟨.tag, start⟩
    if 1 < handle.length ∧ handle.getLast? = some '!' then
      let (suffix, cursor) ← cursor.scanWrittenUri isUriChar inText
      .ok ({ handle := String.ofList handle, suffix }, cursor)
    else
      let (suffix, cursor) ← cursor.scanUri isUriChar inText
      let suffix := untilNull (octets (String.ofList handle.tail) ++ suffix)
      if suffix.isEmpty then .ok ({ handle := "", suffix := octets "!" }, cursor)
      else .ok ({ handle := "!", suffix }, cursor)

/-- A tag must be followed by a gap, or by a comma within a flow collection. -/
def Cursor.endsTag (inFlow : Bool) (cursor : Cursor) : Bool :=
  atGap cursor.rest || (inFlow && cursor.startsWith ',')

inductive Directive where
  | version (major minor : Nat)
  | tag (handle : String) (expansion : Octets)
deriving DecidableEq, Repr

def decimalValue (digits : List Char) : Nat :=
  digits.foldl (fun n c => 10 * n + (c.toNat - '0'.toNat)) 0

def Cursor.scanNumber (start : Place) (cursor : Cursor) : Except Fault (Nat × Cursor) :=
  let (digits, after) := cursor.span Char.isDigit
  if digits.isEmpty then .error (.within .versionDirective start cursor.place .noVersionNumber)
  else if 9 < digits.length then
    .error (.within .versionDirective start (cursor.skip 9).place .longVersion)
  else .ok (decimalValue digits, after)

def Cursor.scanVersion (start : Place) (cursor : Cursor) : Except Fault (Directive × Cursor) := do
  let (major, cursor) ← cursor.scanNumber start
  if !cursor.startsWith '.' then
    .error (.within .versionDirective start cursor.place .noVersionPoint)
  let (minor, cursor) ← cursor.skip.scanNumber start
  .ok (.version major minor, cursor)

def Cursor.scanExpansion (start : Place) (cursor : Cursor) :
    Except Fault (Directive × Cursor) := do
  let (handle, cursor) ← cursor.scanHandle ⟨.handleStart, start⟩
  if handle.getLast? ≠ some '!' then
    .error (.within .handleEnd start cursor.place .noExclamation)
  if !(cursor.rest.head?.any isSpaceOrTab) then
    .error (.within .handleDirective start cursor.place .noBlank)
  let (expansion, cursor) ←
    (cursor.skipWhile isSpaceOrTab).scanWrittenUri isVerbatimUriChar ⟨.handleExpansion, start⟩
  if !atGap cursor.rest then .error (.within .handleDirective start cursor.place .noGap)
  .ok (.tag (String.ofList handle) expansion, cursor)

def Cursor.scanDirective (cursor : Cursor) : Except Fault (Directive × Cursor) := do
  let start := cursor.place
  let (name, cursor) := cursor.skip.span isWordChar
  if name.isEmpty then .error (.within .directive start cursor.place .noDirectiveName)
  if !atGap cursor.rest then .error (.within .directive start cursor.place .badDirectiveName)
  let blank := cursor.skipWhile isSpaceOrTab
  let (directive, cursor) ←
    if name = "YAML".toList then blank.scanVersion start
    else if name = "TAG".toList then blank.scanExpansion start
    else .error (.within .directive start cursor.place .unknownDirective)
  let cursor := cursor.skipWhile isSpaceOrTab
  let cursor := if cursor.startsWith '#' then cursor.skipWhile (!isBreak ·) else cursor
  match cursor.rest with
  | [] => .ok (directive, cursor)
  | c :: _ =>
    if isBreak c then .ok (directive, cursor.skipBreak)
    else .error (.within .directive start cursor.place .noLineEnd)

end ClientGem.Yaml
