import ClientGem.Api.Load
import ClientGem.Proofs.FileTree.Along

/-!
The description of an API loaded from a tree of files. To load it changes nothing there.
-/

namespace ClientGem.Api

open FileTree

variable (working : Location) (path : FilePath)

theorem along_loadDocument : Along Eq (loadDocument (disk working) path) := by
  have readsBytes : Along Eq ((disk working).read path) := fun tree => rfl
  have readsText : Along Eq ((disk working).readText path) := by
    apply along_bind readsBytes
    intro bytes
    split
    · exact along_pure _
    · exact along_throw _
  have looks : Along Eq ((disk working).kind? path) := fun tree => rfl
  unfold loadDocument
  apply along_bind (along_lift looks)
  intro kind
  split
  · exact along_bind (along_throw _) fun _ =>
      along_bind (along_adapt readsText _) fun source => along_ofExcept _
  · exact along_bind (along_adapt readsText _) fun source => along_ofExcept _

theorem loadDocument_eq (tree : FileTree) : loadDocument (disk working) path tree =
    ((loadDocument (disk working) path tree).1, tree) :=
  Prod.ext rfl (along_loadDocument working path tree).symm

theorem load_eq (workingName : Option String) (tree : FileTree) :
    Config.load (disk working) workingName path tree =
      ((loadDocument (disk working) path tree).1.bind (Config.ofLoaded workingName), tree) := by
  have looked := loadDocument_eq working path tree
  rw [Config.load]
  cases loaded : (loadDocument (disk working) path tree).1 with
  | error error =>
    rw [loaded] at looked
    rw [bind_of_error looked]
    rfl
  | ok document =>
    rw [loaded] at looked
    rw [bind_of_ok looked, ofExcept_apply]
    rfl

end ClientGem.Api
