import ClientGem.Api.Load
import ClientGem.Command.Arguments
import ClientGem.Command.Warning
import ClientGem.Gem.Files
import ClientGem.Output.Directory
import ClientGem.Output.Bounded

/-!
What the program does for a request: it loads a description and writes the gem for it into a
directory, or prints the gem's files and leaves the disk alone.
-/

namespace ClientGem.Command

open Api Output

inductive RunError where
  | unloaded (error : LoadError)
  | notDirectory (root : FilePath)
  | unbuilt (error : Gem.BuildError WriteError)
deriving DecidableEq, Repr

def RunError.message : RunError → String
  | unloaded (.notFound path) => "Error: " ++ LoadError.message (.notFound path)
  | unloaded error => "Error generating wrapper: " ++ error.message
  | notDirectory root => "Error generating wrapper: " ++ notDirectoryMessage root
  | unbuilt error => "Error generating wrapper: " ++ error.message WriteError.message

def programName : String := "clientsmith"
def programVersion : String := "0.1.0"

structure Outcome where
  code : Nat
  printed : Bytes := []
  warnings : List String := []
  complaint : Option String := none
deriving DecidableEq, Repr, Inhabited

def summary (what : String) (count : Nat) : Bytes :=
  bytesOf <| what ++ " (" ++ toString count ++ " files)\n"

variable {m : Type → Type} [Monad m]

def writeGem (disk : Disk m) (gem : Gem) (root : FilePath) : ExceptT RunError m Bytes := do
  unless ← (canHoldFiles disk root : m Bool) do throw (.notDirectory root)
  let paths ← (gem.build (directorySink disk root)).adapt .unbuilt
  return summary "Wrapper generated successfully" paths.length

def printGem (gem : Gem) : Except RunError Bytes :=
  match gem.build Printout.sink {} with
  | (.ok paths, printout) =>
    .ok (printout.printed ++ summary "Dry run complete" paths.length)
  | (.error error, _) => .error (.unbuilt error)

def makeGem (disk : Disk m) (gem : Gem) (order : BuildOrder) : ExceptT RunError m Bytes :=
  if order.dryRun then MonadExcept.ofExcept (printGem gem)
  else writeGem disk gem order.outputDir

def execute (disk : Disk m) (workingName : Option String) (order : BuildOrder)
    (document : Except LoadError Document.Value) : ExceptT RunError m Bytes :=
  match document.bind (Config.ofLoaded workingName) with
  | .ok api => makeGem disk ⟨api⟩ order
  | .error error => throw (.unloaded error)

def madeFiles : Except RunError Bytes → Bool
  | .ok _ => true
  | .error (.unbuilt (.refused _)) => true
  | .error _ => false

/-- Resources are looked at one by one only when their files are made. -/
def warnings (document : Except LoadError Document.Value) (result : Except RunError Bytes) :
    List Warning :=
  match document with
  | .ok document =>
    authWarnings document ++ if madeFiles result then resourceWarnings document else []
  | .error _ => []

def outcomeOf (warnings : List String) : Except RunError Bytes → Outcome
  | .ok printed => { code := 0, printed, warnings }
  | .error error => { code := 1, warnings, complaint := some error.message }

/-- Arguments that make no sense end the program with 2, a request that fails ends it with 1. -/
def run (disk : Disk m) (workingName : Option String) (args : List String) : m Outcome :=
  match Request.ofArguments? args with
  | none => return { code := 2 }
  | some .help => return { code := 0 }
  | some .version =>
    return { code := 0, printed := bytesOf (programName ++ " " ++ programVersion ++ "\n") }
  | some (.build order) => do
    let document ← (loadDocument disk order.configFile).run
    let result ← (execute disk workingName order document).run
    return outcomeOf ((warnings document result).map (·.record order.jsonLog)) result

end ClientGem.Command
