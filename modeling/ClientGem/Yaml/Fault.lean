import ClientGem.Document.ShapeError
import ClientGem.Yaml.Cursor

/-!
Why a text is no YAML document, or one that cannot be taken in, and how it is said. A message
names the place of the fault, or the way from the root of a document to a node, and what was being
read and where that began.
-/

namespace ClientGem.Yaml

open Document

inductive PathStep where
  | entry (key : String)
  | item (index : Nat)
  /-- Into an entry whose key is no scalar. -/
  | unnamed
deriving DecidableEq, Repr

/-- The last step comes first. -/
abbrev NodePath := List PathStep

namespace NodePath

def text : NodePath → String
  | [] => "."
  | .item index :: outer => text outer ++ "[" ++ toString index ++ "]"
  | [.entry key] => key
  | .entry key :: outer => text outer ++ "." ++ key
  | [.unnamed] => "?"
  | .unnamed :: outer => text outer ++ ".?"

def mention (path : NodePath) : String :=
  if path.text = "." then "" else path.text ++ ": "

end NodePath

inductive Problem where
  | noToken
  | missingColon
  | misplacedEntry
  | misplacedKey
  | misplacedValue
  | unknownDirective
  | noDirectiveName
  | badDirectiveName
  | noVersionPoint
  | longVersion
  | noVersionNumber
  | wrongVersion
  | repeatedVersion
  | repeatedHandle
  | undefinedHandle
  | noExclamation
  | noUri
  | noUriEscape
  | badFirstOctet
  | badLaterOctet
  | noClosingBracket
  | noBlank
  | noGap
  | noLineEnd
  | noName
  | zeroIndentation
  | tabInIndentation
  | tabInPlainScalar
  | documentMarkInQuotes
  | unclosedQuote
  | unknownEscape
  | badHexEscape
  | badCodePoint
  | colonInFlow
  | noContent
  | noDash
  | noKey
  | noSequenceEnd
  | noMappingEnd
  | noDocumentStart
deriving DecidableEq, Repr, Inhabited

def Problem.describe : Problem → String
  | noToken => "found character that cannot start any token"
  | missingColon => "could not find expected ':'"
  | misplacedEntry => "block sequence entries are not allowed in this context"
  | misplacedKey => "mapping keys are not allowed in this context"
  | misplacedValue => "mapping values are not allowed in this context"
  | unknownDirective => "found unknown directive name"
  | noDirectiveName => "could not find expected directive name"
  | badDirectiveName => "found unexpected non-alphabetical character"
  | noVersionPoint => "did not find expected digit or '.' character"
  | longVersion => "found extremely long version number"
  | noVersionNumber => "did not find expected version number"
  | wrongVersion => "found incompatible YAML document"
  | repeatedVersion => "found duplicate %YAML directive"
  | repeatedHandle => "found duplicate %TAG directive"
  | undefinedHandle => "found undefined tag handle"
  | noExclamation => "did not find expected '!'"
  | noUri => "did not find expected tag URI"
  | noUriEscape => "did not find URI escaped octet"
  | badFirstOctet => "found an incorrect leading UTF-8 octet"
  | badLaterOctet => "found an incorrect trailing UTF-8 octet"
  | noClosingBracket => "did not find the expected '>'"
  | noBlank => "did not find expected whitespace"
  | noGap => "did not find expected whitespace or line break"
  | noLineEnd => "did not find expected comment or line break"
  | noName => "did not find expected alphabetic or numeric character"
  | zeroIndentation => "found an indentation indicator equal to 0"
  | tabInIndentation => "found a tab character where an indentation space is expected"
  | tabInPlainScalar => "found a tab character that violates indentation"
  | documentMarkInQuotes => "found unexpected document indicator"
  | unclosedQuote => "found unexpected end of stream"
  | unknownEscape => "found unknown escape character"
  | badHexEscape => "did not find expected hexdecimal number"
  | badCodePoint => "found invalid Unicode character escape code"
  | colonInFlow => "found unexpected ':'"
  | noContent => "did not find expected node content"
  | noDash => "did not find expected '-' indicator"
  | noKey => "did not find expected key"
  | noSequenceEnd => "did not find expected ',' or ']'"
  | noMappingEnd => "did not find expected ',' or '\x7d'"
  | noDocumentStart => "did not find expected <document start>"

inductive Activity where
  | nextToken
  | simpleKey
  | directive
  | versionDirective
  | handleDirective
  | handleExpansion
  | handleStart
  | handleEnd
  | anchor
  | reference
  | tag
  | tagText
  | blockScalar
  | quotedScalar
  | escape
  | plainScalar
  | node
  | blockNode
  | flowNode
  | blockSequence
  | blockMapping
  | flowSequence
  | flowMapping
deriving DecidableEq, Repr, Inhabited

def Activity.describe : Activity → String
  | nextToken => "while scanning for the next token"
  | simpleKey => "while scanning a simple key"
  | directive => "while scanning a directive"
  | versionDirective => "while scanning a %YAML directive"
  | handleDirective => "while scanning a %TAG directive"
  | handleExpansion => "while parsing a %TAG directive"
  | handleStart => "while scanning a tag directive"
  | handleEnd => "while parsing a tag directive"
  | anchor => "while scanning an anchor"
  | reference => "while scanning an alias"
  | tag => "while scanning a tag"
  | tagText => "while parsing a tag"
  | blockScalar => "while scanning a block scalar"
  | quotedScalar => "while scanning a quoted scalar"
  | escape => "while parsing a quoted scalar"
  | plainScalar => "while scanning a plain scalar"
  | node => "while parsing a node"
  | blockNode => "while parsing a block node"
  | flowNode => "while parsing a flow node"
  | blockSequence => "while parsing a block collection"
  | blockMapping => "while parsing a block mapping"
  | flowSequence => "while parsing a flow sequence"
  | flowMapping => "while parsing a flow mapping"

structure Context where
  activity : Activity
  start : Place
deriving DecidableEq, Repr

inductive ScalarKind where
  | null
  | boolean
  | integer
  | float
deriving DecidableEq, Repr

def ScalarKind.describe : ScalarKind → String
  | null => "null"
  | boolean => "a boolean"
  | integer => "an integer"
  | float => "a float"

structure Spot where
  path : NodePath
  place : Place
deriving DecidableEq, Repr

inductive Fault where
  /-- A control character, after so many octets. -/
  | forbiddenCharacter (index : Nat)
  | misread (problem : Problem) (place : Place) (context : Option Context)
  | unknownAnchor (place : Place)
  | unfitScalar (spot : Spot) (text : String) (wanted : ScalarKind)
  | wideInteger (spot : Spot) (value : Int)
  /-- The key is named unless it has a tag or is a collection. -/
  | repeatedKey (spot : Spot) (key : Option Found)
  | tooDeep (place : Place)
  | tooManyCopies
  | severalDocuments
deriving DecidableEq, Repr

namespace Fault

/-- The fault found at `place` while something that began at `start` was being read. -/
def within (activity : Activity) (start place : Place) (problem : Problem) : Fault :=
  .misread problem place (some { activity, start })

def describeContext (place : Place) (context : Context) : String :=
  ", " ++ context.activity.describe ++
    if context.start.onSameSpot place then "" else context.start.mention

def describeKey : Option Found → String
  | some .null => "with null key"
  | some (.bool b) => "with key `" ++ (if b then "true" else "false") ++ "`"
  | some (.int i) => "with key " ++ toString i
  | some (.float x) => "with key " ++ x.toShortText
  | some (.text s) => "with key " ++ Text.quoted s
  | some .sequence | some .mapping | none => "in YAML map"

def message : Fault → String
  | forbiddenCharacter index =>
    "control characters are not allowed" ++
      if index = 0 then "" else " at position " ++ toString index
  | misread problem place context =>
    problem.describe ++ place.mention ++ ((context.map (describeContext place)).getD "")
  | unknownAnchor place => "unknown anchor" ++ place.mention
  | unfitScalar spot text wanted =>
    spot.path.mention ++ "invalid value: string " ++ Text.quoted text ++ ", expected " ++
      wanted.describe ++ spot.place.mention
  | wideInteger spot value =>
    spot.path.mention ++ "invalid type: integer `" ++ toString value ++ "` as " ++
      (if value < 0 then "i128" else "u128") ++ ", expected any YAML value" ++
      spot.place.mention
  | repeatedKey spot key =>
    spot.path.mention ++ "duplicate entry " ++ describeKey key ++ spot.place.mention
  | tooDeep place => "recursion limit exceeded" ++ place.mention
  | tooManyCopies => "repetition limit exceeded"
  | severalDocuments => "deserializing from YAML containing more than one document is not supported"

end Fault

end ClientGem.Yaml
