import ClientGem.Yaml.Tag

/-!
The tokens of a YAML stream, each with the place where it begins.
-/

namespace ClientGem.Yaml

inductive Token where
  | directive (directive : Directive)
  | documentStart
  | documentEnd
  | blockSequenceStart
  | blockMappingStart
  | blockEnd
  | flowSequenceStart
  | flowSequenceEnd
  | flowMappingStart
  | flowMappingEnd
  | blockEntry
  | flowEntry
  | key
  | value
  | reference (name : String)
  | anchor (name : String)
  | tag (name : TagName)
  | scalar (text : String) (plain : Bool)
  | streamEnd
  /-- What comes here cannot be read, and nothing after it. -/
  | refused (fault : Fault)
deriving DecidableEq, Repr

structure PlacedToken where
  token : Token
  place : Place
deriving Repr

/-- The tokens that are still to come. The last one is the end of the stream or a refusal. -/
abbrev Tokens := List PlacedToken

namespace Tokens

def place (tokens : Tokens) : Place :=
  (tokens.head?.map (·.place)).getD {}

def startsWith (token : Token) (tokens : Tokens) : Bool :=
  tokens.head?.any (·.token == token)

def refusal? : Tokens → Option Fault
  | ⟨.refused fault, _⟩ :: _ => some fault
  | _ => none

end Tokens

end ClientGem.Yaml
