import ClientGem.Proofs.FileTree.Growth

/-!
What it means that a directory is made with those above it: it is there afterwards, and where it
was there before nothing happens.
-/

namespace ClientGem.FileTree

open FilePath Output

section Directories

variable {working location : Location} {path : FilePath} {tree changed after : FileTree}

theorem follow_concat {start : Location} {names : List String} {name : String} :
    tree.follow start (names ++ [name]) = .ok location ↔
      ∃ above, tree.follow start names = .ok above ∧ tree.enter above name = .ok location ∧
        (tree.get? location).isSome = true := by
  induction names generalizing start with
  | nil =>
    rw [List.nil_append, follow_cons]
    constructor
    · rintro ⟨next, entered, found, reached⟩
      obtain rfl := follow_nil.mp reached
      exact ⟨start, follow_nil.mpr rfl, entered, found⟩
    · rintro ⟨above, reached, entered, found⟩
      obtain rfl := follow_nil.mp reached
      exact ⟨location, entered, found, follow_nil.mpr rfl⟩
  | cons first names ih =>
    simp only [List.cons_append, follow_cons, ih]
    constructor
    · rintro ⟨next, entered, found, above, followed, last⟩
      exact ⟨above, ⟨next, entered, found, followed⟩, last⟩
    · rintro ⟨above, ⟨next, entered, found, followed⟩, last⟩
      exact ⟨next, entered, found, above, followed, last⟩

theorem kind?_of_makeDirectory (made : tree.makeDirectory working path = .ok changed) :
    changed.kind? working path = some .directory := by
  obtain ⟨located, absent, rfl⟩ := makeDirectory_eq_ok.mp made
  have grows : Grows (fun _ => True) tree (tree.insert (destination working path) .directory) := by
    have along : Along (Grows fun _ => True) ((disk working).makeDirectory path) :=
      grows_makeDirectory trivial
    have succeeded : (disk working).makeDirectory path tree =
        (.ok (), tree.insert (destination working path) .directory) := apply_eq_ok.mpr made
    have moved := along tree
    rwa [succeeded] at moved
  obtain ⟨checked, names, name, above, steps, ne_here, ne_up, followed, entered⟩ :=
    locate_eq_some.mp (locate_eq grows.kept located)
  have isOpen : (tree.insert (destination working path) .directory).get?
      (destination working path) = some .directory := by
    rw [get?_insert _ _ _ _ (ne_nil_of_get? absent), if_pos rfl]
  refine kind?_eq_directory.mpr ⟨checked, _, ?_, isDirectory_iff.mpr isOpen⟩
  rw [steps]
  exact follow_concat.mpr ⟨above, followed, entered, by rw [isOpen]; rfl⟩

theorem makeDirectory_of_directory (isDirectory : tree.kind? working path = some .directory) :
    tree.makeDirectory working path = .error .alreadyExists := by
  obtain ⟨checked, location, followed, isOpen⟩ := kind?_eq_directory.mp isDirectory
  rcases List.eq_nil_or_concat' path.steps with none | ⟨names, name, steps⟩
  · simp [makeDirectory, locate, checked, none, bind, Except.bind]
  · rw [steps] at followed
    obtain ⟨above, followed, entered, found⟩ := follow_concat.mp followed
    by_cases isName : name = "." ∨ name = ".."
    · simp [makeDirectory, locate, checked, steps, followed, entered, isName, bind, Except.bind]
    · simp [makeDirectory, locate, checked, steps, followed, entered, isName, found, bind,
        Except.bind]

theorem unlessDirectory_apply (fault : FileFault) :
    (disk working).unlessDirectory path fault tree =
      (if tree.kind? working path = some .directory then .ok () else .error fault, tree) := by
  have asked : (liftM ((disk working).isDirectory path) : ExceptT FileFault (StateM FileTree) Bool)
      tree = (.ok (tree.kind? working path == some .directory), tree) := rfl
  rw [Disk.unlessDirectory, bind_of_ok asked]
  by_cases isOpen : tree.kind? working path = some .directory
  · rw [if_pos isOpen, isOpen]
    rfl
  · rw [if_neg isOpen, beq_eq_false_iff_ne.mpr isOpen]
    rfl

theorem unlessDirectory_eq_ok {fault : FileFault} :
    (disk working).unlessDirectory path fault tree = (.ok (), after) ↔
      tree.kind? working path = some .directory ∧ tree = after := by
  rw [unlessDirectory_apply]
  split
  · next isOpen =>
    constructor
    · rintro ⟨⟩
      exact ⟨isOpen, rfl⟩
    · rintro ⟨-, rfl⟩
      rfl
  · next closed =>
    constructor
    · intro succeeded
      cases succeeded
    · rintro ⟨isOpen, -⟩
      exact absurd isOpen closed

/-- A directory is there after a call that makes it, or fails where it is there all the same. -/
theorem kind?_of_tryCatch {handler : FileFault → ExceptT FileFault (StateM FileTree) Unit}
    (made : (tryCatch ((disk working).makeDirectory path) handler :
      ExceptT FileFault (StateM FileTree) Unit) tree = (.ok (), after))
    (otherwise : ∀ fault middle, handler fault middle = (.ok (), after) →
      after.kind? working path = some .directory) :
    after.kind? working path = some .directory := by
  rcases tryCatch_eq_ok.mp made with done | ⟨fault, middle, -, handled⟩
  · exact kind?_of_makeDirectory (apply_eq_ok.mp done)
  · exact otherwise fault middle handled

theorem kind?_of_unlessDirectory {fault : FileFault} {middle : FileTree}
    (succeeded : (disk working).unlessDirectory path fault middle = (.ok (), after)) :
    after.kind? working path = some .directory := by
  obtain ⟨found, rfl⟩ := unlessDirectory_eq_ok.mp succeeded
  exact found

/-- The directory is there after it has been made with those above it; nothing is made for a path
without a text. -/
theorem kind?_of_makeLineage {higher : List FilePath}
    (made : (disk working).makeLineage (path :: higher) tree = (.ok (), after)) :
    path.isEmpty = true ∨ after.kind? working path = some .directory := by
  rw [Disk.makeLineage] at made
  split at made
  · next isEmpty => exact .inl isEmpty
  · refine .inr (kind?_of_tryCatch made ?_)
    intro fault middle handled
    split at handled
    · obtain ⟨-, grown, -, retried⟩ := bind_eq_ok.mp handled
      exact kind?_of_tryCatch retried fun _ _ => kind?_of_unlessDirectory
    · exact kind?_of_unlessDirectory handled

theorem makeLineage_of_directory {higher : List FilePath}
    (isThere : path.isEmpty = true ∨ tree.kind? working path = some .directory) :
    (disk working).makeLineage (path :: higher) tree = (.ok (), tree) := by
  rw [Disk.makeLineage]
  split
  · rfl
  · next nonempty =>
    have found := isThere.resolve_left nonempty
    have refused : (disk working).makeDirectory path tree = (.error .alreadyExists, tree) := by
      change apply (makeDirectory working path) tree = _
      rw [apply, makeDirectory_of_directory found]
    exact tryCatch_eq_ok.mpr (.inr ⟨.alreadyExists, tree, refused,
      unlessDirectory_eq_ok.mpr ⟨found, rfl⟩⟩)

end Directories

end ClientGem.FileTree
