import ClientGem.FileTree.Walk

/-!
A file tree as a disk. A call that fails leaves the tree as it was.
-/

namespace ClientGem.FileTree

abbrev Change := Except FileFault FileTree

def makeDirectory (working : Location) (path : FilePath) (tree : FileTree) : Change := do
  match ← tree.locate working path with
  | none => .error .alreadyExists
  | some location =>
    if (tree.get? location).isSome then .error .alreadyExists
    else .ok (tree.insert location .directory)

def write (working : Location) (path : FilePath) (content : ByteArray) (tree : FileTree) :
    Change := do
  match ← tree.locate working path with
  | none => .error .isDirectory
  | some location =>
    if path.endsInSlash || tree.isDirectory location then .error .isDirectory
    else .ok (tree.insert location (.file content))

def move (working : Location) (source target : FilePath) (tree : FileTree) : Change := do
  match ← tree.locate working source, ← tree.locate working target with
  | some source, some location =>
    match tree.get? source with
    | none => .error .notFound
    | some .directory => .error .isDirectory
    | some (.file content) =>
      if target.endsInSlash then .error .notDirectory
      else if tree.isDirectory location then .error .isDirectory
      else .ok ((tree.erase source).insert location (.file content))
  | _, _ => .error .busy

def removeFile (working : Location) (path : FilePath) (tree : FileTree) : Change := do
  match ← tree.locate working path with
  | none => .error .isDirectory
  | some location =>
    match tree.get? location with
    | some (.file _) => if path.endsInSlash then .error .notDirectory else .ok (tree.erase location)
    | some .directory => .error .isDirectory
    | none => .error .notFound

def read (working : Location) (path : FilePath) (tree : FileTree) : Except FileFault ByteArray := do
  match ← tree.lookup working path with
  | .file content => .ok content
  | .directory => .error .isDirectory

def kind? (working : Location) (path : FilePath) (tree : FileTree) : Option FileKind :=
  match tree.lookup working path with
  | .ok node => some node.kind
  | .error _ => none

def apply (change : FileTree → Change) : ExceptT FileFault (StateM FileTree) Unit :=
  fun tree =>
    match change tree with
    | .ok changed => (.ok (), changed)
    | .error fault => (.error fault, tree)

theorem apply_eq_ok {change : FileTree → Change} {tree after : FileTree} :
    apply change tree = (.ok (), after) ↔ change tree = .ok after := by
  unfold apply
  cases change tree with
  | error fault => constructor <;> rintro ⟨⟩
  | ok changed => constructor <;> (rintro ⟨⟩; rfl)

theorem apply_eq_error {change : FileTree → Change} {fault : FileFault} {tree after : FileTree} :
    apply change tree = (.error fault, after) ↔ change tree = .error fault ∧ tree = after := by
  unfold apply
  cases change tree with
  | error other =>
    constructor
    · rintro ⟨⟩
      exact ⟨rfl, rfl⟩
    · rintro ⟨same, rfl⟩
      cases same
      rfl
  | ok changed =>
    constructor
    · rintro ⟨⟩
    · rintro ⟨same, -⟩
      cases same

def disk (working : Location) : Disk (StateM FileTree) where
  kind? path := fun tree => (tree.kind? working path, tree)
  read path := fun tree => (tree.read working path, tree)
  makeDirectory path := apply (makeDirectory working path)
  write path content := apply (write working path content)
  move source target := apply (move working source target)
  removeFile path := apply (removeFile working path)

end ClientGem.FileTree
