import ClientGem.Yaml.Fault
import ClientGem.Yaml.Cursor

/-!
Scalars without quotes. One ends before a comment, a colon that ends a key, an indicator of the
flow collection around it, a line that is indented too little, or a document mark.
-/

namespace ClientGem.Yaml

structure Scanned where
  text : List Char
  cursor : Cursor
  /-- A line break was passed after the last word. -/
  endsOnNewLine : Bool := false
deriving Repr

structure PlainContext where
  start : Place
  inFlow : Bool
  /-- The least column of a continuation line outside flow collections. -/
  margin : Int

/-- A line that continues the scalar cannot start like this. -/
def PlainContext.stopsAt (context : PlainContext) (rest : List Char) (place : Place) : Bool :=
  (!context.inFlow && (place.column : Int) < context.margin) ||
    (place.column == 0 && (atDocumentMark '-' rest || atDocumentMark '.' rest)) ||
    rest.head? == some '#'

def plainScanned (rest : List Char) (place : Place) (written : List Char) (gap : Option Gap) :
    Scanned where
  text := written.reverse
  cursor := { rest, place }
  endsOnNewLine := (gap.map (·.crossed)).getD false

/-- `written` holds the text so far, last character first; `gap` is the white space passed since,
if any. -/
def scanPlain (context : PlainContext) (rest : List Char) (place : Place) (written : List Char)
    (gap : Option Gap) : Except Fault Scanned :=
  match rest with
  | [] => .ok (plainScanned [] place written gap)
  | '\r' :: '\n' :: after =>
    scanPlain context after (place.nextLine ['\r', '\n']) written
      (some ((gap.getD {}).addBreak '\n'))
  | c :: after =>
    if isSpaceOrTab c then
      let gap := gap.getD {}
      if gap.crossed && (place.column : Int) < context.margin && c == '\t' then
        .error (.within .plainScalar context.start place .tabInPlainScalar)
      else scanPlain context after (place.right c) written (some (gap.addSpace c))
    else if isBreak c then
      scanPlain context after (place.nextLine [c]) written (some ((gap.getD {}).addBreak c))
    else if gap.isSome && context.stopsAt (c :: after) place then
      .ok (plainScanned (c :: after) place written gap)
    else if context.inFlow && c == ':' &&
        (after.head?.any fun d => isFlowIndicator d || d == '?') then
      .error (.within .plainScalar context.start place .colonInFlow)
    else if (c == ':' && atGap after) || (context.inFlow && isFlowIndicator c) then
      .ok (plainScanned (c :: after) place written gap)
    else
      let folded := ((gap.map Gap.folded).getD []).reverse
      scanPlain context after (place.right c) (c :: (folded ++ written)) none

def Cursor.scanPlain (inFlow : Bool) (margin : Int) (cursor : Cursor) : Except Fault Scanned :=
  Yaml.scanPlain { start := cursor.place, inFlow, margin } cursor.rest cursor.place [] none

end ClientGem.Yaml
