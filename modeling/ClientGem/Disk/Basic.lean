import ClientGem.FilePath

/-!
A disk, given by the calls it answers in some monad, and what can go wrong with a call.
-/

namespace ClientGem

inductive FileFault where
  | notFound
  | busy
  | alreadyExists
  | notDirectory
  | isDirectory
  | nameTooLong
  | nulInName
  | notText
  /-- The device took only a part of what was written. -/
  | incomplete
  /-- The device takes nothing more. -/
  | full
  | other (reason : String)
deriving DecidableEq, Repr

def FileFault.message : FileFault → String
  | notFound => "No such file or directory (os error 2)"
  | busy => "Device or resource busy (os error 16)"
  | alreadyExists => "File exists (os error 17)"
  | notDirectory => "Not a directory (os error 20)"
  | isDirectory => "Is a directory (os error 21)"
  | nameTooLong => "File name too long (os error 36)"
  | nulInName => "file name contained an unexpected NUL byte"
  | notText => "stream did not contain valid UTF-8"
  | incomplete => "failed to write whole buffer"
  | full => "disk full"
  | other reason => reason

inductive FileKind where
  | file
  | directory
deriving DecidableEq, Repr

structure Disk (m : Type → Type) where
  /-- What a path leads to, if anything. -/
  kind? : FilePath → m (Option FileKind)
  read : FilePath → ExceptT FileFault m ByteArray
  /-- Makes one directory, where nothing is yet. -/
  makeDirectory : FilePath → ExceptT FileFault m Unit
  /-- Makes a file, or replaces the content of one. -/
  write : FilePath → ByteArray → ExceptT FileFault m Unit
  /-- Moves a file, also to where another file is. -/
  move : FilePath → FilePath → ExceptT FileFault m Unit
  removeFile : FilePath → ExceptT FileFault m Unit

namespace Disk

variable {m : Type → Type} [Monad m]

def isDirectory (disk : Disk m) (path : FilePath) : m Bool := do
  return (← disk.kind? path) == some .directory

def readText (disk : Disk m) (path : FilePath) : ExceptT FileFault m String := do
  match String.fromUTF8? (← disk.read path) with
  | some text => return text
  | none => throw .notText

end Disk

end ClientGem
