import ClientGem.Proofs.FileTree.Lookup

/-!
Trees in which everything lies in a directory. The empty tree is one, and the calls of a disk leave
one wherever they find one. In such a tree a path that never steps up leads to whatever is at its
place.
-/

namespace ClientGem.FileTree

open FilePath

def Rooted (tree : FileTree) : Prop :=
  ∀ location, (tree.get? location).isSome = true → tree.isDirectory location.dropLast = true

theorem rooted_of_entries {tree : FileTree}
    (each : ∀ entry ∈ tree.entries, tree.isDirectory entry.1.dropLast = true) : tree.Rooted := by
  intro location isThere
  unfold get? at isThere
  split at isThere
  · next root =>
    rw [root]
    rfl
  · rw [Option.isSome_map, List.find?_isSome] at isThere
    obtain ⟨entry, member, same⟩ := isThere
    rw [← of_decide_eq_true same]
    exact each entry member

section Changes

variable {tree : FileTree} {location : Location}

theorem dropLast_ne (ne_nil : location ≠ []) : location.dropLast ≠ location := by
  intro same
  have shorter := congrArg List.length same
  rw [List.length_dropLast] at shorter
  have positive := List.length_pos_iff.mpr ne_nil
  omega

theorem Rooted.insert (rooted : tree.Rooted) (ne_nil : location ≠ []) {node : FileNode}
    (above : tree.isDirectory location.dropLast = true)
    (stays : tree.isDirectory location = true → node.isDirectory = true) :
    (tree.insert location node).Rooted := by
  intro other isThere
  rw [isDirectory_insert ne_nil]
  split
  · next same =>
    -- Something lies in what was a directory, which therefore still is one.
    apply stays
    rw [get?_insert _ _ _ _ ne_nil] at isThere
    split at isThere
    · next here =>
      rw [here] at same
      exact absurd same (dropLast_ne ne_nil)
    · rw [← same]
      exact rooted other isThere
  · rw [get?_insert _ _ _ _ ne_nil] at isThere
    split at isThere
    · next here =>
      rw [here]
      exact above
    · exact rooted other isThere

theorem Rooted.erase (rooted : tree.Rooted) {content : ByteArray}
    (found : tree.get? location = some (.file content)) : (tree.erase location).Rooted := by
  intro other isThere
  rw [isDirectory_erase found]
  apply rooted
  by_cases root : other = []
  · rw [root]
    rfl
  · rw [get?_erase _ _ _ root] at isThere
    split at isThere
    · cases isThere
    · exact isThere

theorem isDirectory_above {working : Location} {path : FilePath}
    (located : tree.locate working path = .ok (some location)) :
    tree.isDirectory location.dropLast = true := by
  obtain ⟨-, names, name, above, -, ne_here, ne_up, -, entered⟩ := locate_eq_some.mp located
  rw [enter_eq_afterStep entered, afterStep, if_neg ne_here, if_neg ne_up, List.dropLast_concat]
  exact isDirectory_of_enter entered

end Changes

def StaysRooted (before after : FileTree) : Prop :=
  before.Rooted → after.Rooted

instance : Std.Refl StaysRooted where
  refl _ rooted := rooted

instance : IsTrans FileTree StaysRooted where
  trans _ _ _ first second rooted := second (first rooted)

section Disk

variable {working : Location}

theorem staysRooted_makeDirectory (path : FilePath) :
    Along StaysRooted ((disk working).makeDirectory path) := by
  apply along_apply
  intro tree changed made rooted
  obtain ⟨located, absent, rfl⟩ := makeDirectory_eq_ok.mp made
  exact rooted.insert (ne_nil_of_get? absent) (isDirectory_above located) fun _ => rfl

theorem staysRooted_write (path : FilePath) (content : ByteArray) :
    Along StaysRooted ((disk working).write path content) := by
  apply along_apply
  intro tree changed written rooted
  obtain ⟨located, -, closed, rfl⟩ := write_eq_ok.mp written
  exact rooted.insert (ne_nil_of_isDirectory closed) (isDirectory_above located) (by simp [closed])

theorem staysRooted_move (source target : FilePath) :
    Along StaysRooted ((disk working).move source target) := by
  apply along_apply
  intro tree changed moved rooted
  obtain ⟨-, located, -, closed, content, found, rfl⟩ := move_eq_ok.mp moved
  have same := isDirectory_erase found
  apply (rooted.erase found).insert (ne_nil_of_isDirectory closed)
  · rw [same]
    exact isDirectory_above located
  · simp [same, closed]

theorem staysRooted_removeFile (path : FilePath) :
    Along StaysRooted ((disk working).removeFile path) := by
  apply along_apply
  intro tree changed removed rooted
  obtain ⟨content, found, rfl⟩ := removeFile_eq_ok removed
  exact rooted.erase found

theorem staysRooted_writeAtomic (path : FilePath) (content : String) :
    Along StaysRooted ((disk working).writeAtomic path content) :=
  along_writeAtomic (fun higher _ => staysRooted_makeDirectory higher) (staysRooted_write _ _)
    (staysRooted_move _ _) (staysRooted_removeFile _)

end Disk

section Downward

variable {tree other : FileTree} {working start above last : Location} {name : String}
  {names : List String} {path : FilePath} {node : FileNode}

/-- What is entered in another tree is entered from a directory of the tree. -/
theorem Rooted.isDirectory_before (rooted : tree.Rooted)
    (entered : other.enter above name = .ok last) (ne_up : name ≠ "..")
    (isThere : (tree.get? last).isSome = true)
    (stays : other.isDirectory last = true → tree.isDirectory last = true) :
    tree.isDirectory above = true := by
  have leads := enter_eq_afterStep entered
  unfold afterStep at leads
  split at leads
  · rw [← leads]
    exact stays (leads ▸ isDirectory_of_enter entered)
  · have inside := rooted last isThere
    rwa [leads, List.dropLast_concat] at inside

/-- A directory of the tree that is reached in another without a step up is reached in the tree. -/
theorem Rooted.follow (rooted : tree.Rooted) (downward : ".." ∉ names)
    (followed : other.follow start names = .ok last) (isOpen : tree.isDirectory last = true) :
    tree.follow start names = .ok last := by
  induction names using List.reverseRecOn generalizing last with
  | nil => exact follow_nil.mpr (follow_nil.mp followed)
  | append_singleton names name ih =>
    rw [List.mem_append, List.mem_singleton, not_or] at downward
    obtain ⟨above, walked, entered, -⟩ := follow_concat.mp followed
    have isThere : (tree.get? last).isSome = true := by
      rw [isDirectory_iff.mp isOpen]
      rfl
    have open_above :=
      rooted.isDirectory_before entered (Ne.symm downward.2) isThere fun _ => isOpen
    exact follow_concat.mpr ⟨above, ih downward.1 walked open_above,
      enter_eq (fun _ => open_above) entered, isThere⟩

/-- What is found in another tree without a step up is found in the tree, if it is there. -/
theorem Rooted.lookup (rooted : tree.Rooted) (downward : ".." ∉ path.steps)
    (same : tree.get? (destination working path) = other.get? (destination working path))
    (found : other.lookup working path = .ok node) : tree.lookup working path = .ok node := by
  have there := same.trans (get?_of_lookup found)
  obtain ⟨checked, location, followed, -, closed⟩ := lookup_eq_ok.mp found
  rw [destination_of_follow followed] at there same
  refine lookup_eq_ok.mpr ⟨checked, location, ?_, there, closed⟩
  rcases List.eq_nil_or_concat' path.steps with none | ⟨names, name, steps⟩
  · rw [none] at followed ⊢
    exact followed
  · rw [steps] at followed downward ⊢
    rw [List.mem_append, List.mem_singleton, not_or] at downward
    obtain ⟨above, walked, entered, -⟩ := follow_concat.mp followed
    have isThere : (tree.get? location).isSome = true := by
      rw [there]
      rfl
    have open_above := rooted.isDirectory_before entered (Ne.symm downward.2) isThere fun isOpen =>
      isDirectory_iff.mpr (same.trans (isDirectory_iff.mp isOpen))
    exact follow_concat.mpr ⟨above, rooted.follow downward.1 walked open_above,
      enter_eq (fun _ => open_above) entered, isThere⟩

end Downward

end ClientGem.FileTree
