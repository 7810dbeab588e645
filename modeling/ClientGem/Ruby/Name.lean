import ClientGem.Text.Basic
import ClientGem.Unicode.Casing

/-!
Names and literals of generated code. A module takes its name from all words of an API name, a class
from a resource name as it stands but for its first letter. The text of a string can neither end the
string nor begin an interpolation.
-/

namespace ClientGem.Ruby

def isSeparator (c : Char) : Bool :=
  c == '-' || c == '_'

def capitalizeChars : List Char → List Char
  | [] => []
  | c :: rest => Unicode.toUpper c ++ rest

def moduleChars (cs : List Char) : List Char :=
  ((Text.splitChars isSeparator cs).filter (!·.isEmpty)).flatMap capitalizeChars

def moduleName (apiName : String) : String :=
  String.ofList (moduleChars apiName.toList)

def className (resource : String) : String :=
  String.ofList (capitalizeChars resource.toList)

/-- The name of one of many: without its last letter, if that is an s. -/
def singular (resource : String) : String :=
  match resource.toList.reverse with
  | 's' :: rest => String.ofList rest.reverse
  | _ => resource

def fileStem (apiName : String) : String :=
  String.ofList (apiName.toList.map fun c => if c = '-' then '_' else c)

def needsEscape (c : Char) : Bool :=
  c == '\\' || c == '"' || c == '#'

def escapeChars (cs : List Char) : List Char :=
  cs.flatMap fun c => if needsEscape c then ['\\', c] else [c]

def escape (s : String) : String :=
  String.ofList (escapeChars s.toList)

def stringLiteral (s : String) : String :=
  "\"" ++ escape s ++ "\""

def isWordStart (c : Char) : Bool :=
  c.isAlpha || c == '_'

def isWordChar (c : Char) : Bool :=
  c.isAlphanum || c == '_'

def isPlainSymbol (s : String) : Bool :=
  match s.toList with
  | [] => false
  | c :: rest => isWordStart c && rest.all isWordChar

def symbolLiteral (s : String) : String :=
  ":" ++ (if isPlainSymbol s then s else stringLiteral s)

end ClientGem.Ruby
