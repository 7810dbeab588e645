import ClientGem.FileTree.Basic

/-!
Where a path leads in a file tree. Every step but the last has to lead to a directory; the last
may lead to where nothing is.
-/

namespace ClientGem.FileTree

def nameLimit : Nat := 255

def pathLimit : Nat := 4095

def enter (tree : FileTree) (location : Location) (name : String) : Except FileFault Location :=
  if !tree.isDirectory location then .error .notDirectory
  else if name = "." then .ok location
  else if name = ".." then .ok location.dropLast
  else if nameLimit < name.utf8ByteSize then .error .nameTooLong
  else .ok (location ++ [name])

def visit (tree : FileTree) (location : Location) (name : String) : Except FileFault Location := do
  let next ← tree.enter location name
  if (tree.get? next).isSome then .ok next else .error .notFound

def follow (tree : FileTree) (start : Location) (names : List String) : Except FileFault Location :=
  names.foldlM tree.visit start

def check (path : FilePath) : Except FileFault Unit :=
  if path.text.toList.contains '\x00' then .error .nulInName
  else if path.isEmpty then .error .notFound
  else if pathLimit < path.text.utf8ByteSize then .error .nameTooLong
  else .ok ()

def startOf (working : Location) (path : FilePath) : Location :=
  if path.isAbsolute then [] else working

/-- What is found at a path; a slash at its end asks for a directory. -/
def lookup (tree : FileTree) (working : Location) (path : FilePath) :
    Except FileFault FileNode := do
  check path
  let location ← tree.follow (startOf working path) path.steps
  match tree.get? location with
  | some node =>
    if path.endsInSlash && !node.isDirectory then .error .notDirectory else .ok node
  | none => .error .notFound

/-- The location at which something may be made or removed. There is none when the last step of the
path is not a name. -/
def locate (tree : FileTree) (working : Location) (path : FilePath) :
    Except FileFault (Option Location) := do
  check path
  match path.steps.getLast? with
  | none => .ok none
  | some name =>
    let above ← tree.follow (startOf working path) path.steps.dropLast
    let location ← tree.enter above name
    .ok (if name = "." || name = ".." then none else some location)

end ClientGem.FileTree
