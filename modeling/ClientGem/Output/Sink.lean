import ClientGem.Disk.Basic

/-!
Sinks take files one after another, and may refuse one. Files are written up to the first that is
refused.
-/

namespace ClientGem.Output

structure File where
  path : FilePath
  content : String
deriving DecidableEq, Repr

abbrev Sink (m : Type → Type) (ε : Type) :=
  FilePath → String → ExceptT ε m Unit

structure WriteError where
  path : FilePath
  fault : FileFault
deriving DecidableEq, Repr

def WriteError.message (error : WriteError) : String :=
  "Failed to write output file '" ++ error.path.text ++ "': " ++ error.fault.message

def naming {m : Type → Type} [Monad m] {α : Type} (path : FilePath)
    (call : ExceptT FileFault m α) : ExceptT WriteError m α :=
  call.adapt fun fault => ⟨path, fault⟩

def writeFiles {m : Type → Type} [Monad m] {ε : Type} (sink : Sink m ε) :
    List File → ExceptT ε m (List FilePath)
  | [] => return []
  | file :: rest => do
    sink file.path file.content
    return file.path :: (← writeFiles sink rest)

end ClientGem.Output
