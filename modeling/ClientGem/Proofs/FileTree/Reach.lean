import ClientGem.FileTree.Calls
import ClientGem.Proofs.FilePath.Steps
import ClientGem.Proofs.FileTree.Destination

/-!
Where a path leads is decided by the directories that it goes through. It leads there in every other
tree that has these directories.
-/

namespace ClientGem.FileTree

open FilePath

def DirectoriesIn (tree other : FileTree) : Prop :=
  ∀ location, tree.isDirectory location = true → other.isDirectory location = true

theorem isDirectory_iff {tree : FileTree} {location : Location} :
    tree.isDirectory location = true ↔ tree.get? location = some .directory := by
  unfold isDirectory
  cases tree.get? location with
  | none => simp
  | some node => cases node <;> simp [FileNode.isDirectory]

theorem destination_join (working : Location) (base : FilePath) {path : FilePath}
    (relative : path.isAbsolute = false) :
    destination working (base.join path) =
      path.steps.foldl afterStep (destination working base) := by
  rw [destination_eq_foldl_steps, destination_eq_foldl_steps, steps_join relative,
    List.foldl_append, startOf, isAbsolute_join relative, ← startOf]

section Walk

variable {tree other : FileTree} {start last location : Location} {name : String}
  {names before after : List String}

theorem isDirectory_of_enter (entered : tree.enter start name = .ok last) :
    tree.isDirectory start = true := by
  by_contra closed
  rw [enter, if_pos (by simpa using closed)] at entered
  cases entered

theorem enter_eq (kept : tree.isDirectory start = true → other.isDirectory start = true)
    (entered : tree.enter start name = .ok last) : other.enter start name = .ok last := by
  have open_start := isDirectory_of_enter entered
  unfold enter at entered ⊢
  rw [open_start] at entered
  rw [kept open_start]
  exact entered

theorem follow_cons : tree.follow start (name :: names) = .ok last ↔
    ∃ next, tree.enter start name = .ok next ∧ (tree.get? next).isSome = true ∧
      tree.follow next names = .ok last := by
  unfold follow
  rw [List.foldlM_cons]
  unfold visit
  cases entered : tree.enter start name with
  | error fault => simp [bind, Except.bind]
  | ok next =>
    by_cases found : (tree.get? next).isSome = true
    · simp [bind, Except.bind, found]
    · simp [bind, Except.bind, found]

theorem follow_nil : tree.follow start [] = .ok last ↔ start = last := by
  unfold follow
  rw [List.foldlM_nil]
  exact ⟨Except.ok.inj, congrArg Except.ok⟩

theorem isDirectory_of_follow (followed : tree.follow start (before ++ after) = .ok last)
    (isOpen : tree.isDirectory last = true) :
    tree.isDirectory (before.foldl afterStep start) = true := by
  induction before generalizing start with
  | nil =>
    cases after with
    | nil => exact follow_nil.mp followed ▸ isOpen
    | cons name after =>
      obtain ⟨next, entered, -⟩ := follow_cons.mp followed
      exact isDirectory_of_enter entered
  | cons name before ih =>
    obtain ⟨next, entered, -, rest⟩ := follow_cons.mp followed
    rw [List.foldl_cons, ← enter_eq_afterStep entered]
    exact ih rest

theorem follow_eq (kept : DirectoriesIn tree other) (followed : tree.follow start names = .ok last)
    (isOpen : tree.isDirectory last = true) : other.follow start names = .ok last := by
  induction names generalizing start with
  | nil => exact followed
  | cons name names ih =>
    obtain ⟨next, entered, -, rest⟩ := follow_cons.mp followed
    have onwards : tree.follow next ([] ++ names) = .ok last := rest
    have reached : tree.isDirectory next = true := isDirectory_of_follow onwards isOpen
    refine follow_cons.mpr ⟨next, enter_eq (kept start) entered, ?_, ih rest⟩
    rw [isDirectory_iff.mp (kept next reached)]
    rfl

end Walk

section Path

variable {tree other : FileTree} {working location : Location} {path : FilePath}

/-- Something may be made or removed behind directories only, under a name. -/
theorem locate_eq_some : tree.locate working path = .ok (some location) ↔
    check path = .ok () ∧ ∃ names name above, path.steps = names ++ [name] ∧
      name ≠ "." ∧ name ≠ ".." ∧ tree.follow (startOf working path) names = .ok above ∧
      tree.enter above name = .ok location := by
  unfold locate
  cases check path with
  | error fault => simp [bind, Except.bind]
  | ok _ =>
    rcases List.eq_nil_or_concat' path.steps with none | ⟨names, name, steps⟩
    · simp [bind, Except.bind, none]
    · simp only [steps, bind, Except.bind, List.getLast?_concat, List.dropLast_concat]
      constructor
      · intro located
        refine ⟨trivial, names, name, ?_⟩
        cases followed : tree.follow (startOf working path) names with
        | error fault => simp [followed] at located
        | ok above =>
          cases entered : tree.enter above name with
          | error fault => simp [followed, entered] at located
          | ok reached =>
            simp only [followed, entered, Except.ok.injEq] at located
            split at located
            · cases located
            · next isName =>
              obtain rfl := Option.some.inj located
              simp only [Bool.or_eq_true, decide_eq_true_eq, not_or] at isName
              exact ⟨above, rfl, isName.1, isName.2, rfl, entered⟩
      · rintro ⟨-, names', name', above, same, ne_here, ne_up, followed, entered⟩
        obtain ⟨rfl, rfl⟩ := List.append_inj' same rfl |>.imp_right List.head_eq_of_cons_eq
        simp [followed, entered, ne_here, ne_up]

theorem locate_eq (kept : DirectoriesIn tree other)
    (located : tree.locate working path = .ok (some location)) :
    other.locate working path = .ok (some location) := by
  obtain ⟨checked, names, name, above, steps, ne_here, ne_up, followed, entered⟩ :=
    locate_eq_some.mp located
  exact locate_eq_some.mpr ⟨checked, names, name, above, steps, ne_here, ne_up,
    follow_eq kept followed (isDirectory_of_enter entered), enter_eq (kept above) entered⟩

/-- Where something may be made or removed, all steps but the last lead to directories. -/
theorem isDirectory_of_locate (located : tree.locate working path = .ok (some location))
    {before after : List String} (ne_nil : after ≠ []) (steps : path.steps = before ++ after) :
    tree.isDirectory (before.foldl afterStep (startOf working path)) = true := by
  obtain ⟨-, names, name, above, steps', -, -, followed, entered⟩ := locate_eq_some.mp located
  obtain ⟨middle, last, rfl⟩ := List.eq_nil_or_concat' after |>.resolve_left ne_nil
  have split : names = before ++ middle := by
    rw [steps, ← List.append_assoc] at steps'
    exact (List.append_inj' steps' rfl).1.symm
  rw [split] at followed
  exact isDirectory_of_follow followed (isDirectory_of_enter entered)

theorem lookup_eq_ok {node : FileNode} : tree.lookup working path = .ok node ↔ check path = .ok () ∧
    ∃ location, tree.follow (startOf working path) path.steps = .ok location ∧
      tree.get? location = some node ∧ (path.endsInSlash = true → node.isDirectory = true) := by
  unfold lookup
  cases check path with
  | error fault => simp [bind, Except.bind]
  | ok _ =>
    cases followed : tree.follow (startOf working path) path.steps with
    | error fault => simp [bind, Except.bind]
    | ok location =>
      cases found : tree.get? location with
      | none => simp [bind, Except.bind, found]
      | some there =>
        simp only [bind, Except.bind, Except.ok.injEq, found, true_and, exists_eq_left',
          Option.some.injEq]
        cases slash : path.endsInSlash with
        | false => simp
        | true =>
          by_cases isOpen : there.isDirectory = true
          · simp only [isOpen, Bool.not_true, Bool.and_false, Bool.false_eq_true, if_false,
              Except.ok.injEq, forall_const]
            exact ⟨fun same => ⟨same, same ▸ isOpen⟩, And.left⟩
          · simp only [isOpen, Bool.not_false, Bool.and_self, if_true, reduceCtorEq, forall_const,
              false_iff, not_and]
            exact fun same => same ▸ isOpen

theorem kind?_eq_directory : tree.kind? working path = some .directory ↔
    check path = .ok () ∧ ∃ location, tree.follow (startOf working path) path.steps = .ok location ∧
      tree.isDirectory location = true := by
  have found : tree.kind? working path = some .directory ↔
      tree.lookup working path = .ok .directory := by
    unfold kind?
    cases tree.lookup working path with
    | error fault => simp
    | ok node => cases node <;> simp [FileNode.kind]
  rw [found, lookup_eq_ok]
  simp [isDirectory_iff, FileNode.isDirectory]

theorem kind?_eq (kept : DirectoriesIn tree other)
    (isDirectory : tree.kind? working path = some .directory) :
    other.kind? working path = some .directory := by
  obtain ⟨checked, location, followed, isOpen⟩ := kind?_eq_directory.mp isDirectory
  exact kind?_eq_directory.mpr ⟨checked, location, follow_eq kept followed isOpen,
    kept location isOpen⟩

end Path

end ClientGem.FileTree
