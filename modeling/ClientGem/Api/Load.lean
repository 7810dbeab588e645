import ClientGem.Api.Decode
import ClientGem.Disk.Basic
import ClientGem.Yaml.Read

/-!
The description of an API read from the text of a YAML document, or loaded from a file. A text
without content describes an API of which nothing is known, and an API without a name that is loaded
is called after the working directory.
-/

namespace ClientGem.Api

inductive ParseError where
  | text (fault : Yaml.Fault)
  | shape (error : Document.ShapeError)
deriving DecidableEq, Repr

def ParseError.reason : ParseError → String
  | text fault => fault.message
  | shape error => error.message

def ParseError.message (error : ParseError) : String :=
  "failed to parse configuration: " ++ error.reason

def Config.ofDocument (value : Document.Value) : Except ParseError Config :=
  (Config.decode value).mapError .shape

def readDocument (source : String) : Except ParseError Document.Value :=
  if Unicode.isBlankText source then .ok .null
  else (Yaml.read source).mapError .text

def Config.ofYaml (source : String) : Except ParseError Config := do
  Config.ofDocument (← readDocument source)

inductive LoadError where
  | notFound (path : FilePath)
  | unreadable (path : FilePath) (fault : FileFault)
  | unparsable (error : ParseError)
deriving DecidableEq, Repr

def LoadError.message : LoadError → String
  | notFound path => "configuration file not found: " ++ path.text
  | unreadable path fault =>
    "failed to read configuration file '" ++ path.text ++ "': " ++ fault.message
  | unparsable error => error.message

def Config.orNamed (config : Config) (name : Option String) : Config :=
  { config with nameSetting := config.nameSetting.or name }

def Config.ofLoaded (workingName : Option String) (document : Document.Value) :
    Except LoadError Config :=
  ((Config.ofDocument document).map (·.orNamed workingName)).mapError .unparsable

variable {m : Type → Type} [Monad m]

def loadDocument (disk : Disk m) (path : FilePath) : ExceptT LoadError m Document.Value := do
  if (← disk.kind? path).isNone then throw (.notFound path)
  let source ← (disk.readText path).adapt (.unreadable path)
  MonadExcept.ofExcept ((readDocument source).mapError .unparsable)

def Config.load (disk : Disk m) (workingName : Option String) (path : FilePath) :
    ExceptT LoadError m Config := do
  MonadExcept.ofExcept (Config.ofLoaded workingName (← loadDocument disk path))

end ClientGem.Api
