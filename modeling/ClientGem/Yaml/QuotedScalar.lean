import ClientGem.Yaml.PlainScalar

/-!
Scalars in single or double quotes. In single quotes a quote is written twice; in double quotes a
backslash begins an escape, and one at the end of a line joins the lines without a space.
-/

namespace ClientGem.Yaml

def hexValue? (c : Char) : Option Nat :=
  if '0' ≤ c ∧ c ≤ '9' then some (c.toNat - '0'.toNat)
  else if 'a' ≤ c ∧ c ≤ 'f' then some (c.toNat - 'a'.toNat + 10)
  else if 'A' ≤ c ∧ c ≤ 'F' then some (c.toNat - 'A'.toNat + 10)
  else none

def hexNumber? (digits : List Char) : Option Nat :=
  digits.foldlM (fun n c => (hexValue? c).map (n * 16 + ·)) 0

/-- The character of `count` hexadecimal digits; surrogates and larger numbers are none. -/
def codePoint (count : Nat) (rest : List Char) : Except Problem Char :=
  let digits := rest.take count
  match hexNumber? digits with
  | some n =>
    if digits.length ≠ count then .error .badHexEscape
    else if n.isValidChar then .ok (Char.ofNat n)
    else .error .badCodePoint
  | none => .error .badHexEscape

def shortEscape? (c : Char) : Option Char :=
  match c with
  | '0' => some '\x00'
  | 'a' => some '\x07'
  | 'b' => some '\x08'
  | 't' => some '\t'
  | '\t' => some '\t'
  | 'n' => some '\n'
  | 'v' => some '\x0b'
  | 'f' => some '\x0c'
  | 'r' => some '\r'
  | 'e' => some '\x1b'
  | ' ' => some ' '
  | '"' => some '"'
  | '/' => some '/'
  | '\\' => some '\\'
  | 'N' => some '\x85'
  | '_' => some '\xa0'
  | 'L' => some '\u2028'
  | 'P' => some '\u2029'
  | _ => none

def hexDigitCount? (c : Char) : Option Nat :=
  if c = 'x' then some 2 else if c = 'u' then some 4 else if c = 'U' then some 8 else none

/-- What an escape stands for, and how many characters it has. The first is the backslash, which
`place` is that of. -/
def readEscape (start place : Place) (chars : List Char) : Except Fault (Char × Nat) :=
  match chars with
  | _ :: c :: rest =>
    match shortEscape? c, hexDigitCount? c with
    | some meaning, _ => .ok (meaning, 2)
    | none, some count =>
      match codePoint count rest with
      | .ok meaning => .ok (meaning, count + 2)
      | .error problem => .error (.within .escape start (place.past (chars.take 2)) problem)
    | none, none => .error (.within .escape start place .unknownEscape)
  | _ => .error (.within .escape start place .unknownEscape)

/-- `written` and `gap` are as for plain scalars. -/
def scanQuoted (start : Place) (quote : Char) (rest : List Char) (place : Place)
    (written : List Char) (gap : Option Gap) : Except Fault Scanned :=
  match rest with
  | [] => .error (.within .quotedScalar start place .unclosedQuote)
  | c :: after =>
    if isSpaceOrTab c then
      scanQuoted start quote after (place.right c) written (some ((gap.getD {}).addSpace c))
    else if c = '\r' ∧ after.head? = some '\n' then
      scanQuoted start quote (after.drop 1) (place.nextLine ['\r', '\n']) written
        (some ((gap.getD {}).addBreak '\n'))
    else if isBreak c then
      scanQuoted start quote after (place.nextLine [c]) written (some ((gap.getD {}).addBreak c))
    else if gap.isSome && place.column == 0 &&
        (atDocumentMark '-' (c :: after) || atDocumentMark '.' (c :: after)) then
      .error (.within .quotedScalar start place .documentMarkInQuotes)
    else
      let written := ((gap.map Gap.folded).getD []).reverse ++ written
      if quote = '\'' ∧ c = '\'' ∧ after.head? = some '\'' then
        scanQuoted start quote (after.drop 1) (place.past [c, c]) ('\'' :: written) none
      else if c = quote then
        .ok { text := written.reverse, cursor := { rest := after, place := place.right c } }
      else if quote = '"' ∧ c = '\\' then
        if after.head?.any isBreak then
          let n := if ['\r', '\n'].isPrefixOf after then 2 else 1
          scanQuoted start quote (after.drop n) ((place.right c).nextLine (after.take n)) written
            (some Gap.escaped)
        else
          match readEscape start place (c :: after) with
          | .ok (meaning, n) =>
            scanQuoted start quote (after.drop (n - 1)) (place.past ((c :: after).take n))
              (meaning :: written) none
          | .error fault => .error fault
      else scanQuoted start quote after (place.right c) (c :: written) none
termination_by rest.length
decreasing_by all_goals simp; try omega

def Cursor.scanQuoted (quote : Char) (cursor : Cursor) : Except Fault Scanned :=
  let inside := cursor.skip
  Yaml.scanQuoted cursor.place quote inside.rest inside.place [] none

end ClientGem.Yaml
