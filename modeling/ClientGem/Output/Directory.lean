import ClientGem.Output.Sink

/-!
Files written into a directory of a disk. Each is written beside its place under another name and
then moved there, so that at no time it holds only a part of its content.
-/

namespace ClientGem

open Output

namespace FilePath

def temporary (path : FilePath) : FilePath :=
  path.withFileName (path.fileName?.getD "" ++ ".tmp")

end FilePath

namespace Disk

variable {m : Type → Type} [Monad m]

/-- A fault does not count where the directory is there all the same. -/
def unlessDirectory (disk : Disk m) (path : FilePath) (fault : FileFault) :
    ExceptT FileFault m Unit := do
  unless ← disk.isDirectory path do throw fault

/-- Makes a directory after those above it; `lineage` is its path and those of the others. -/
def makeLineage (disk : Disk m) : List FilePath → ExceptT FileFault m Unit
  | [] => return
  | path :: above => do
    if path.isEmpty then return
    tryCatch (disk.makeDirectory path) fun fault => do
      if fault = .notFound then
        makeLineage disk above
        tryCatch (disk.makeDirectory path) (disk.unlessDirectory path)
      else disk.unlessDirectory path fault

def makeDirectories (disk : Disk m) (path : FilePath) : ExceptT FileFault m Unit :=
  disk.makeLineage (path :: path.ancestors)

def writeAtomic (disk : Disk m) (path : FilePath) (content : String) :
    ExceptT WriteError m Unit := do
  if let some parent := path.parent? then
    naming parent (disk.makeDirectories parent)
  naming path.temporary (disk.write path.temporary content.toUTF8)
  tryCatch (naming path (disk.move path.temporary path)) fun error => do
    let _ ← (disk.removeFile path.temporary).run
    throw error

end Disk

namespace Output

def directorySink {m : Type → Type} [Monad m] (disk : Disk m) (root : FilePath) :
    Sink m WriteError :=
  fun path content => disk.writeAtomic (root.join path) content

def canHoldFiles {m : Type → Type} [Monad m] (disk : Disk m) (root : FilePath) : m Bool := do
  return (← disk.kind? root) != some .file

def notDirectoryMessage (root : FilePath) : String :=
  "Output directory does not exist: " ++ root.text

end Output

end ClientGem
