import ClientGem.Proofs.FileTree.Lineage

/-!
What is found at a path. It depends on the directories that the path goes through and on what is at
its place; and where anything is found, the directory that holds it is found as well.
-/

namespace ClientGem.FilePath

theorem text_parent_isPrefix {path parent : FilePath} (isParent : path.parent? = some parent) :
    parent.text.toList <+: path.text.toList := by
  have whole : path.start ++ ['/'].intercalate path.body = path.text.toList := by
    rw [intercalate_body]
    exact splitStart_append path.text.toList
  cases reversed : path.reversedBody with
  | nil =>
    rw [parent?, ancestors_of_idle reversed] at isParent
    split at isParent
    · rw [← Option.some.inj isParent]
      exact List.nil_prefix
    · cases isParent
  | cons last before =>
    obtain ⟨-, tail, tail_ne_nil, -, body⟩ := body_of_reversedBody reversed
    rw [parent?, ancestors, reversed, above, List.head?_cons] at isParent
    rw [← Option.some.inj isParent, ← whole, body]
    dsimp only
    rw [String.toList_ofList, List.prefix_append_right_inj]
    by_cases none : (before.dropWhile isIdle).reverse = []
    · rw [none]
      exact List.nil_prefix
    · rw [intercalate_append none tail_ne_nil, List.append_assoc]
      exact List.prefix_append _ _

theorem text_join_isPrefix (base : FilePath) {path : FilePath}
    (relative : path.isAbsolute = false) :
    base.text.toList <+: (base.join path).text.toList := by
  rw [join, relative, Bool.false_or]
  by_cases empty : base.isEmpty = true
  · have nothing : base.text = "" := by simpa [isEmpty] using empty
    rw [nothing]
    exact List.nil_prefix
  · rw [if_neg empty]
    split
    · rw [String.toList_append]
      exact List.prefix_append _ _
    · rw [String.toList_append, String.toList_append, List.append_assoc]
      exact List.prefix_append _ _

end ClientGem.FilePath

namespace ClientGem.FileTree

open FilePath

def found? (tree : FileTree) (working : Location) (path : FilePath) : Option FileNode :=
  (tree.lookup working path).toOption

section Lookup

variable {tree other : FileTree} {working : Location} {path base : FilePath} {node : FileNode}

theorem found?_eq_some :
    tree.found? working path = some node ↔ tree.lookup working path = .ok node := by
  unfold found?
  cases tree.lookup working path with
  | error fault => constructor <;> rintro ⟨⟩
  | ok found => constructor <;> (rintro ⟨⟩; rfl)

theorem found?_congr
    (same : ∀ node, other.lookup working path = .ok node ↔ tree.lookup working path = .ok node) :
    other.found? working path = tree.found? working path := by
  apply Option.ext
  intro node
  rw [found?_eq_some, found?_eq_some]
  exact same node

theorem get?_of_lookup (found : tree.lookup working path = .ok node) :
    tree.get? (destination working path) = some node := by
  obtain ⟨-, location, followed, there, -⟩ := lookup_eq_ok.mp found
  rwa [destination_of_follow followed]

theorem lookup_of_locate
    (located : tree.locate working path = .ok (some (destination working path)))
    (there : tree.get? (destination working path) = some node)
    (open_end : path.endsInSlash = false) : tree.lookup working path = .ok node := by
  obtain ⟨checked, names, name, above, steps, -, -, followed, entered⟩ := locate_eq_some.mp located
  refine lookup_eq_ok.mpr ⟨checked, _, ?_, there, by simp [open_end]⟩
  rw [steps]
  exact follow_concat.mpr ⟨above, followed, entered, by rw [there]; rfl⟩

/-- A path is found to lead to the same in another tree, where this has the same directories. -/
theorem lookup_eq (kept : DirectoriesIn tree other)
    (same : other.get? (destination working path) = tree.get? (destination working path))
    (found : tree.lookup working path = .ok node) : other.lookup working path = .ok node := by
  obtain ⟨checked, location, followed, there, closed⟩ := lookup_eq_ok.mp found
  rw [destination_of_follow followed] at same
  refine lookup_eq_ok.mpr ⟨checked, location, ?_, same.trans there, closed⟩
  rcases List.eq_nil_or_concat' path.steps with none | ⟨names, name, steps⟩
  · rw [none] at followed ⊢
    exact followed
  · rw [steps] at followed ⊢
    obtain ⟨above, followed, entered, isThere⟩ := follow_concat.mp followed
    exact follow_concat.mpr ⟨above, follow_eq kept followed (isDirectory_of_enter entered),
      enter_eq (kept above) entered, by rw [same, isThere]⟩

theorem follow_append {start last : Location} {before after : List String} :
    tree.follow start (before ++ after) = .ok last ↔
      ∃ middle, tree.follow start before = .ok middle ∧ tree.follow middle after = .ok last := by
  unfold follow
  rw [List.foldlM_append]
  cases before.foldlM tree.visit start with
  | error fault => simp [bind, Except.bind]
  | ok middle => simp [bind, Except.bind]

theorem check_of_isPrefix (nonempty : base.isEmpty = false)
    (isPrefix : base.text.toList <+: path.text.toList) (checked : check path = .ok ()) :
    check base = .ok () := by
  obtain ⟨rest, text⟩ := isPrefix
  have spelled : path.text = base.text ++ String.ofList rest := by
    apply String.toList_inj.mp
    rw [String.toList_append, String.toList_ofList, text]
  unfold check at checked ⊢
  by_cases nul : base.text.toList.contains '\x00' = true
  · have longer : path.text.toList.contains '\x00' = true := by
      rw [← text, List.contains_iff_mem, List.mem_append]
      exact .inl (List.contains_iff_mem.mp nul)
    rw [if_pos longer] at checked
    cases checked
  · rw [if_neg nul, nonempty, if_neg Bool.false_ne_true]
    split
    · next long =>
      have longer : pathLimit < path.text.utf8ByteSize := by
        rw [spelled, String.utf8ByteSize_append]
        omega
      rw [if_pos longer] at checked
      split at checked
      · cases checked
      · split at checked <;> cases checked
    · rfl

/-- Where something is found behind a path, a directory is found at it. -/
theorem kind?_of_deeper (nonempty : base.isEmpty = false)
    (isPrefix : base.text.toList <+: path.text.toList)
    (absolute : base.isAbsolute = path.isAbsolute) {rest : List String} (ne_nil : rest ≠ [])
    (steps : path.steps = base.steps ++ rest) (found : tree.lookup working path = .ok node) :
    tree.kind? working base = some .directory := by
  obtain ⟨checked, location, followed, -, -⟩ := lookup_eq_ok.mp found
  obtain ⟨name, rest, rfl⟩ := List.exists_cons_of_ne_nil ne_nil
  have start : startOf working path = startOf working base := by
    rw [startOf, startOf, absolute]
  rw [steps, start] at followed
  obtain ⟨last, reached, onwards⟩ := follow_append.mp followed
  obtain ⟨next, entered, -⟩ := follow_cons.mp onwards
  exact kind?_eq_directory.mpr ⟨check_of_isPrefix nonempty isPrefix checked, last, reached,
    isDirectory_of_enter entered⟩

end Lookup

end ClientGem.FileTree
