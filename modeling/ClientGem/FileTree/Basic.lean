import ClientGem.Disk.Basic

/-!
A tree of directories and files, held in memory. A location in it is the list of the names that lead
there from the root, which is always a directory.
-/

namespace ClientGem

abbrev Location := List String

inductive FileNode where
  | file (content : ByteArray)
  | directory

def FileNode.isDirectory : FileNode → Bool
  | file _ => false
  | directory => true

def FileNode.kind : FileNode → FileKind
  | file _ => .file
  | directory => .directory

structure FileTree where
  entries : List (Location × FileNode) := []
deriving Inhabited

namespace FileTree

def get? (tree : FileTree) (location : Location) : Option FileNode :=
  if location = [] then some .directory
  else (tree.entries.find? (·.1 = location)).map (·.2)

def isDirectory (tree : FileTree) (location : Location) : Bool :=
  (tree.get? location).any FileNode.isDirectory

def erase (tree : FileTree) (location : Location) : FileTree :=
  ⟨tree.entries.filter (·.1 ≠ location)⟩

def insert (tree : FileTree) (location : Location) (node : FileNode) : FileTree :=
  ⟨(location, node) :: (tree.erase location).entries⟩

theorem find?_filter_ne {α : Type} (entries : List (Location × α)) {location other : Location}
    (h : other ≠ location) :
    (entries.filter (·.1 ≠ location)).find? (·.1 = other) = entries.find? (·.1 = other) := by
  rw [List.find?_filter]
  congr 1
  funext entry
  by_cases ho : entry.1 = other <;> simp [ho, h]

theorem get?_erase (tree : FileTree) (location other : Location) (h : other ≠ []) :
    (tree.erase location).get? other = if other = location then none else tree.get? other := by
  by_cases hp : other = location
  · subst hp
    have : (tree.entries.filter (·.1 ≠ other)).find? (·.1 = other) = none := by
      simp
    simp only [get?, erase, h, this]
    simp
  · simp only [get?, erase, h, hp, find?_filter_ne tree.entries hp]
    simp

theorem get?_insert (tree : FileTree) (location other : Location) (node : FileNode)
    (h : location ≠ []) :
    (tree.insert location node).get? other =
      if other = location then some node else tree.get? other := by
  by_cases ho : other = []
  · subst ho
    simp [get?, Ne.symm h]
  · by_cases hp : other = location
    · subst hp
      simp [get?, insert, ho]
    · have : ¬location = other := fun e => hp e.symm
      have e := get?_erase tree location other ho
      simp only [get?, ho, hp] at e ⊢
      simp only [insert, List.find?_cons, this]
      simpa using e

/-- All locations below a directory, as paths from there, in the order of their characters.
Directories end in a slash. -/
def listing (tree : FileTree) (location : Location) : List String :=
  let inside := tree.entries.filter fun entry => location.isPrefixOf entry.1 && entry.1 != location
  let shown := inside.map fun (path, node) =>
    "/".intercalate (path.drop location.length) ++ (if node.isDirectory then "/" else "")
  shown.mergeSort (fun a b => decide (a ≤ b))

end FileTree

end ClientGem
