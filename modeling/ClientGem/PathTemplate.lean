import ClientGem.Ruby.Name
import ClientGem.Text.Basic

/-!
Paths with placeholders. A placeholder is a name in braces, which is not empty and holds no brace;
every other brace is literal text.
-/

namespace ClientGem

inductive Segment where
  | literal (text : List Char)
  | placeholder (name : List Char)
deriving DecidableEq, Repr

namespace PathTemplate

def literal? (text : List Char) : List Segment :=
  if text.isEmpty then [] else [.literal text]

/-- `before` is the literal text up to the last open brace, and `name`, if there is such a brace,
what follows it; both with the last character first. -/
def parseFrom (before : List Char) (name : Option (List Char)) : List Char → List Segment
  | [] =>
    match name with
    | none => literal? before.reverse
    | some name => literal? (name ++ '\x7b' :: before).reverse
  | c :: rest =>
    match name with
    | none =>
      if c = '\x7b' then parseFrom before (some []) rest
      else parseFrom (c :: before) none rest
    | some name =>
      if c = '\x7b' then parseFrom (name ++ '\x7b' :: before) (some []) rest
      else if c = '\x7d' then
        if name.isEmpty then parseFrom ('\x7d' :: '\x7b' :: before) none rest
        else literal? before.reverse ++ .placeholder name.reverse :: parseFrom [] none rest
      else parseFrom before (some (c :: name)) rest

def parse (path : String) : List Segment :=
  parseFrom [] none path.toList

def firstOccurrences {α : Type} [BEq α] : List α → List α → List α
  | _, [] => []
  | seen, x :: rest =>
    if seen.contains x then firstOccurrences seen rest
    else x :: firstOccurrences (x :: seen) rest

def Segment.name? : Segment → Option (List Char)
  | .literal _ => none
  | .placeholder name => some name

def placeholderNames (segments : List Segment) : List (List Char) :=
  firstOccurrences [] (segments.filterMap Segment.name?)

def params (path : String) : List String :=
  (placeholderNames (parse path)).map String.ofList

def interpolateSegment : Segment → List Char
  | .literal text => Ruby.escapeChars text
  | .placeholder name => ['#', '\x7b'] ++ name ++ ['\x7d']

def interpolate (path : String) : String :=
  String.ofList ((parse path).flatMap interpolateSegment)

def placeholderText (name : List Char) : List Char :=
  '\x7b' :: name ++ ['\x7d']

/-- Puts values in place of placeholders, one name after another over the whole text. -/
def substitute (path : String) (values : List (String × String)) : String :=
  String.ofList (values.foldl (fun text pair =>
    Text.replaceChars (placeholderText pair.1.toList) pair.2.toList text) path.toList)

end PathTemplate

end ClientGem
