import ClientGem.Gem.Settings
import ClientGem.Gem.Classes
import ClientGem.Gem.Readme
import ClientGem.Gem.Requests
import ClientGem.Gem.Tests
import ClientGem.Gem.Wrappers
import ClientGem.Output.Sink

/-!
The files of a gem, in the order in which they are written. There are none when a name is missing
that some file needs; the first one missing is reported, and nothing is written.
-/

namespace ClientGem.Gem

open Api Output Ruby

inductive MissingName where
  | ofModule (apiName : String)
  | ofResource
  /-- Endpoints are counted from 1. -/
  | ofEndpoint (number : Nat) (resource : String)
deriving DecidableEq, Repr

def MissingName.what : MissingName → String
  | ofModule apiName => "api_name '" ++ apiName ++ "' does not yield a module name"
  | ofResource => "resource name"
  | ofEndpoint number resource =>
    "name of endpoint #" ++ toString number ++ " in resource '" ++ resource ++ "'"

def MissingName.message (missing : MissingName) : String :=
  "Missing configuration: " ++ missing.what

def missingInResource? (name : String) (resource : Resource) : Option MissingName :=
  if Unicode.isBlankText name then some .ofResource
  else
    (resource.endpoints.findIdx? fun endpoint => Unicode.isBlankText endpoint.name).map
      fun index => .ofEndpoint (index + 1) name

def missingName? (gem : Gem) : Option MissingName :=
  if gem.moduleName.isEmpty then some (.ofModule gem.apiName)
  else gem.resources.findSome? fun (name, resource) => missingInResource? name resource

def libraryPath (gem : Gem) (name : String) : FilePath :=
  (FilePath.join ⟨"lib"⟩ ⟨gem.fileStem⟩).join ⟨name ++ ".rb"⟩

def entryPath (gem : Gem) : FilePath :=
  FilePath.join ⟨"lib"⟩ ⟨gem.fileStem ++ ".rb"⟩

def resourcePath (gem : Gem) (name : String) : FilePath :=
  gem.libraryPath ("resources/" ++ name)

def testPath (gem : Gem) : FilePath :=
  FilePath.join ⟨"test"⟩ ⟨gem.fileStem ++ "_test.rb"⟩

def sourceFile (path : FilePath) (source : Source) : File where
  path := path
  content := source.layout

def baseSources (gem : Gem) : List (String × Source) :=
  [ ("configuration", gem.configurationSource), ("client", gem.clientSource),
    ("request", gem.requestSource), ("error", gem.errorSource), ("object", gem.objectSource),
    ("collection", gem.collectionSource), ("cache", gem.cacheSource),
    ("version", gem.versionSource) ]

def baseSourceFiles (gem : Gem) : List File :=
  gem.baseSources.map fun (name, source) => sourceFile (gem.libraryPath name) source

def entryFile (gem : Gem) : File :=
  sourceFile gem.entryPath gem.entrySource

def resourceFiles (gem : Gem) : List File :=
  gem.resources.map fun (name, resource) =>
    sourceFile (gem.resourcePath name) (gem.resourceSource name resource)

def documents (gem : Gem) : List File :=
  [⟨⟨"docs/api.md"⟩, gem.reference⟩, ⟨⟨"README.md"⟩, gem.readme⟩]

def testFiles (gem : Gem) : List File :=
  [ sourceFile ⟨"test/test_helper.rb"⟩ gem.testHelperSource,
    sourceFile gem.testPath gem.testSuiteSource ]

def files (gem : Gem) : List File :=
  gem.baseSourceFiles ++ [gem.entryFile] ++ gem.resourceFiles ++ gem.documents ++ gem.testFiles

def render (gem : Gem) : Except MissingName (List File) :=
  match gem.missingName? with
  | some missing => .error missing
  | none => .ok gem.files

theorem render_of_missing {gem : Gem} {missing : MissingName}
    (lacks : gem.missingName? = some missing) : gem.render = .error missing := by
  rw [render, lacks]

theorem render_of_complete {gem : Gem} (complete : gem.missingName? = none) :
    gem.render = .ok gem.files := by
  rw [render, complete]

theorem files_of_render {gem : Gem} {files : List File} (accepted : gem.render = .ok files) :
    files = gem.files := by
  unfold render at accepted
  split at accepted
  · cases accepted
  · exact (Except.ok.inj accepted).symm

inductive BuildError (ε : Type) where
  | missing (name : MissingName)
  | refused (error : ε)
deriving DecidableEq, Repr

def BuildError.message {ε : Type} (describe : ε → String) : BuildError ε → String
  | missing name => name.message
  | refused error => describe error

def build {m : Type → Type} [Monad m] {ε : Type} (gem : Gem) (sink : Sink m ε) :
    ExceptT (BuildError ε) m (List FilePath) :=
  match gem.render with
  | .error missing => throw (.missing missing)
  | .ok files => (writeFiles sink files).adapt .refused

end ClientGem.Gem
