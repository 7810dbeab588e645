import ClientGem.FileTree.Walk
import ClientGem.Proofs.FilePath.Join
import Mathlib.Data.String.Basic

/-!
Where a path leads when all its steps lead anywhere. A tree has no links, so this does not depend on
what is in the tree, and paths with the same components lead to the same place.
-/

namespace ClientGem.FileTree

open FilePath

def afterComponent (location : Location) : Component → Location
  | .root => []
  | .here => location
  | .up => location.dropLast
  | .name name => location ++ [String.ofList name]

def destination (working : Location) (path : FilePath) : Location :=
  path.components.foldl afterComponent working

def afterStep (location : Location) (name : String) : Location :=
  if name = "." then location else if name = ".." then location.dropLast else location ++ [name]

theorem enter_eq_afterStep {tree : FileTree} {location next : Location} {name : String}
    (entered : tree.enter location name = .ok next) : next = afterStep location name := by
  unfold enter at entered
  unfold afterStep
  by_cases isDirectory : tree.isDirectory location
  · rw [if_neg (by simp [isDirectory])] at entered
    by_cases here : name = "."
    · rw [if_pos here] at entered ⊢
      exact (Except.ok.inj entered).symm
    · rw [if_neg here] at entered ⊢
      by_cases up : name = ".."
      · rw [if_pos up] at entered ⊢
        exact (Except.ok.inj entered).symm
      · rw [if_neg up] at entered ⊢
        split at entered
        · cases entered
        · exact (Except.ok.inj entered).symm
  · rw [if_pos (by simp [isDirectory])] at entered
    cases entered

theorem visit_eq_afterStep {tree : FileTree} {location next : Location} {name : String}
    (visited : tree.visit location name = .ok next) : next = afterStep location name := by
  unfold visit at visited
  cases entered : tree.enter location name with
  | error fault =>
    rw [entered] at visited
    cases visited
  | ok reached =>
    rw [entered] at visited
    simp only [bind, Except.bind] at visited
    split at visited
    · exact (Except.ok.inj visited).symm.trans (enter_eq_afterStep entered)
    · cases visited

theorem follow_eq_foldl {tree : FileTree} {start last : Location} {names : List String}
    (followed : tree.follow start names = .ok last) : last = names.foldl afterStep start := by
  induction names generalizing start with
  | nil => exact (Except.ok.inj followed).symm
  | cons name names ih =>
    unfold follow at followed ih
    rw [List.foldlM_cons] at followed
    cases visited : tree.visit start name with
    | error fault =>
      rw [visited] at followed
      cases followed
    | ok next =>
      rw [visited] at followed
      rw [List.foldl_cons, ← visit_eq_afterStep visited]
      exact ih followed

theorem afterStep_piece (start : Location) {piece : List Char} (ne_here : piece ≠ FilePath.here) :
    afterStep start (String.ofList piece) = afterComponent start (component piece) := by
  unfold afterStep component
  rw [if_neg (fun same => ne_here (String.ofList_eq.mp same))]
  by_cases up : piece = FilePath.up
  · rw [if_pos up, if_pos (String.ofList_eq.mpr up)]
    rfl
  · rw [if_neg up, if_neg (fun same => up (String.ofList_eq.mp same))]
    rfl

/-- A piece that leads nowhere is passed over, as are the steps that it stands for. -/
theorem foldl_afterStep_pieces (start : Location) (pieces : List (List Char)) :
    ((pieces.filter (!·.isEmpty)).map String.ofList).foldl afterStep start =
      ((pieces.filter (!isIdle ·)).map component).foldl afterComponent start := by
  induction pieces generalizing start with
  | nil => rfl
  | cons piece pieces ih =>
    by_cases empty : piece = []
    · simp [empty, isIdle, ih]
    · by_cases idle : piece = FilePath.here
      · simp [idle, isIdle, FilePath.here, afterStep, ih]
      · have visible : isIdle piece = false := by simp [isIdle, empty, idle]
        simp [empty, visible, afterStep_piece start idle, ih]

theorem foldl_startComponents (working : Location) (path : FilePath) :
    (startComponents path.start).foldl afterComponent working = startOf working path := by
  unfold startComponents startOf
  by_cases root : path.start = ['/']
  · have absolute : path.isAbsolute = true := by simpa [isAbsolute] using root
    rw [if_pos root, if_pos absolute]
    rfl
  · have relative : ¬path.isAbsolute = true := by simpa [isAbsolute] using root
    rw [if_neg root, if_neg relative]
    by_cases here : path.start = FilePath.here
    · rw [if_pos here]
      rfl
    · rw [if_neg here]
      rfl

/-- To follow the components of a path is to follow its steps. -/
theorem destination_eq_foldl_steps (working : Location) (path : FilePath) :
    destination working path = path.steps.foldl afterStep (startOf working path) := by
  calc
    destination working path =
        (innerComponents path.text.toList).foldl afterComponent (startOf working path) := by
      rw [destination, components_eq, List.foldl_append, foldl_startComponents,
        innerComponents_splitStart]
    _ = path.steps.foldl afterStep (startOf working path) := by
      rw [steps, foldl_afterStep_pieces, innerComponents]

theorem destination_of_follow {tree : FileTree} {working location : Location} {path : FilePath}
    (followed : tree.follow (startOf working path) path.steps = .ok location) :
    destination working path = location := by
  rw [destination_eq_foldl_steps, ← follow_eq_foldl followed]

theorem locate_eq_destination {tree : FileTree} {working location : Location} {path : FilePath}
    (located : tree.locate working path = .ok (some location)) :
    location = destination working path := by
  unfold locate at located
  cases checked : check path with
  | error fault =>
    rw [checked] at located
    cases located
  | ok _ =>
    rw [checked] at located
    simp only [bind, Except.bind] at located
    split at located
    · cases located
    · next name last =>
      cases followed : tree.follow (startOf working path) path.steps.dropLast with
      | error fault =>
        rw [followed] at located
        cases located
      | ok above =>
        rw [followed] at located
        simp only at located
        cases entered : tree.enter above name with
        | error fault =>
          rw [entered] at located
          cases located
        | ok reached =>
          rw [entered] at located
          simp only [Except.ok.injEq] at located
          split at located
          · cases located
          · -- All steps but the last are followed, and the last only leads on.
            obtain ⟨earlier, steps⟩ := List.getLast?_eq_some_iff.mp last
            rw [destination_eq_foldl_steps, steps, List.foldl_append]
            rw [steps, List.dropLast_concat] at followed
            rw [← follow_eq_foldl followed, ← Option.some.inj located]
            exact enter_eq_afterStep entered

end ClientGem.FileTree
