import ClientGem.Proofs.FilePath.Confined
import ClientGem.Proofs.FileTree.Refusal
import ClientGem.Proofs.Output.InPlace

/-!
A file is written as a whole or not at all. Whatever is in the way, its path leads to the new
content or to what was there before, and nothing else has changed but for directories made on the
way.
-/

namespace ClientGem.Output

open FilePath FileTree

structure AllOrNothing (working : Location) (path : FilePath) (content : ByteArray)
    (before : FileTree) (answer : Except WriteError Unit) (after : FileTree) : Prop where
  written : answer = .ok () → after.found? working path = some (.file content)
  /-- Unless the path steps up from a directory that had to be made, it leads to what it led to. -/
  refused : answer ≠ .ok () → .up ∉ path.components ∨ Held working path before →
    after.found? working path = before.found? working path ∧
      ∀ location, destination working path <+: location →
        after.get? location = before.get? location
  /-- In any case only directories are new where the path leads. -/
  spared : answer ≠ .ok () → ∀ location, destination working path <+: location →
    after.get? location = before.get? location ∨
      before.get? location = none ∧ after.get? location = some .directory
  cleared : ∀ bytes, after.found? working path.temporary ≠ some (.file bytes)
  others : ∀ location, after.locate working path ≠ .ok (some location) →
    after.locate working path.temporary ≠ .ok (some location) →
      after.fileAt? location = before.fileAt? location
  kept : DirectoriesIn before after
  /-- A new directory is one that the path goes through. -/
  made : ∀ location, after.isDirectory location = true → before.isDirectory location = true ∨
    ∃ higher ∈ path.ancestors, after.locate working higher = .ok (some location)
  rooted : after.Rooted

section Names

variable {working : Location} {path : FilePath} {above : List Component} {name : List Char}

theorem exists_ends (named : path.fileName?.isSome = true) :
    ∃ above name, path.components = above ++ [.name name] := by
  unfold fileName? at named
  cases reversed : path.reversedBody with
  | nil =>
    rw [reversed] at named
    cases named
  | cons last before =>
    obtain ⟨parent, -, components⟩ := components_parent reversed
    rw [reversed] at named
    dsimp only at named
    split at named
    · cases named
    · next ne_up => exact ⟨parent.components, last, by rw [components, component, if_neg ne_up]⟩

variable (ends : path.components = above ++ [.name name])
include ends

theorem temporary_steps : ∃ parent step, path.parent? = some parent ∧
    parent.text.toList <+: path.temporary.text.toList ∧
    parent.isAbsolute = path.temporary.isAbsolute ∧
    path.temporary.steps = parent.steps ++ [step] ∧ step ≠ "." ∧ step ≠ ".." := by
  obtain ⟨parent, isParent, -, joined, longer⟩ := temporary_eq_join ends
  have relative : (⟨String.ofList name ++ ".tmp"⟩ : FilePath).isAbsolute = false := by
    rw [isAbsolute, (components_of_ordinary longer).1]
    rfl
  have steps :
      (⟨String.ofList name ++ ".tmp"⟩ : FilePath).steps = [String.ofList name ++ ".tmp"] := by
    rw [steps_eq, pieces_of_flat longer.1, stepsOf]
    simp
  rw [joined]
  refine ⟨parent, _, isParent, text_join_isPrefix parent relative,
    (isAbsolute_join relative parent).symm, by rw [steps_join relative, steps], ?_, ?_⟩
  · intro here
    exact longer.2.2.1 (by rw [here]; rfl)
  · intro up
    exact longer.2.2.2 (by rw [up]; rfl)

theorem ne_temporary_of_isPrefix {location : Location}
    (below : destination working path <+: location) :
    location ≠ destination working path.temporary := by
  rintro rfl
  obtain ⟨target, temporary⟩ := destination_temporary working ends
  have same := below.eq_of_length (by rw [target, temporary]; simp)
  exact temporary_apart ends same.symm

end Names

section Downward

variable {working : Location} {path : FilePath}

theorem up_mem_steps : ".." ∈ path.steps ↔ .up ∈ path.components := by
  rw [up_mem_components, steps_eq, stepsOf]
  constructor
  · intro member
    obtain ⟨piece, inPieces, same⟩ := List.mem_map.mp member
    rw [String.ofList_eq.mp same] at inPieces
    exact (List.mem_filter.mp inPieces).1
  · intro member
    exact List.mem_map.mpr ⟨up, List.mem_filter.mpr ⟨member, by decide⟩, by decide⟩

theorem isPrefix_foldl_afterStep {names : List String} (downward : ".." ∉ names)
    (start : Location) : start <+: names.foldl afterStep start := by
  induction names generalizing start with
  | nil => exact List.prefix_rfl
  | cons name names ih =>
    rw [List.mem_cons, not_or] at downward
    rw [List.foldl_cons]
    refine List.IsPrefix.trans ?_ (ih downward.2 _)
    unfold afterStep
    split
    · exact List.prefix_rfl
    · rw [if_neg (Ne.symm downward.1)]
      exact List.prefix_append _ _

/-- A path that never steps up leads further down than the directories that it goes through. -/
theorem not_isPrefix_of_mem_ancestors {above : List Component} {name : List Char}
    (ends : path.components = above ++ [.name name]) (downward : .up ∉ path.components)
    {higher : FilePath} (member : higher ∈ path.ancestors) :
    ¬destination working path <+: destination working higher := by
  obtain ⟨parent, isParent, inAbove, -⟩ := fileName_of_components ends
  have shorter : (destination working higher).length ≤ (destination working parent).length := by
    rw [ancestors_of_parent isParent] at member
    rcases List.mem_cons.mp member with rfl | further
    · exact Nat.le_refl _
    · obtain ⟨absolute, rest, -, steps⟩ := steps_of_mem_ancestors further
      have still : ".." ∉ rest := by
        intro inRest
        have inSteps : ".." ∈ parent.steps := by
          rw [steps]
          exact List.mem_append_right _ inRest
        apply downward
        rw [ends, ← inAbove]
        exact List.mem_append_left _ (up_mem_steps.mp inSteps)
      have start : startOf working parent = startOf working higher := by
        rw [startOf, startOf, absolute]
      rw [destination_eq_foldl_steps working parent, destination_eq_foldl_steps working higher,
        steps, List.foldl_append, start]
      exact (isPrefix_foldl_afterStep still _).length_le
  intro isPrefix
  have longer := isPrefix.length_le
  rw [(destination_temporary working ends).1, ← inAbove, List.length_append] at longer
  exact Nat.not_succ_le_self _ (longer.trans shorter)

end Downward

section Prepared

variable {working : Location} {path : FilePath} {before grown : FileTree}

theorem adds_of_prepared (prepared : Prepared working path before grown) :
    Adds working path.ancestors before grown := by
  unfold Prepared at prepared
  split at prepared
  · next parent isParent =>
    have prepared : (disk working).makeLineage (parent :: parent.ancestors) before =
        (.ok (), grown) := prepared
    have along : Along (Adds working path.ancestors)
        ((disk working).makeLineage path.ancestors) := adds_makeLineage
    have along := along before
    rwa [ancestors_of_parent isParent, prepared, ← ancestors_of_parent isParent] at along
  · rw [prepared]
    exact Std.Refl.refl grown

theorem eq_of_prepared (held : Held working path before)
    (prepared : Prepared working path before grown) : before = grown := by
  unfold Prepared at prepared
  split at prepared
  · next parent isParent =>
    have prepared : (disk working).makeLineage (parent :: parent.ancestors) before =
        (.ok (), grown) := prepared
    rw [makeLineage_of_directory (held parent isParent)] at prepared
    exact congrArg Prod.snd prepared
  · exact prepared

end Prepared

section Cleared

variable {working location : Location} {path : FilePath} {grown : FileTree} {node : FileNode}

theorem get?_cleared (ne_nil : location ≠ []) (other : Location) :
    ((grown.insert location node).erase location).get? other =
      if other = location then none else grown.get? other := by
  by_cases root : other = []
  · rw [root, if_neg (Ne.symm ne_nil)]
    rfl
  · rw [get?_erase _ _ _ root, get?_insert _ _ _ _ ne_nil]
    split <;> rfl

theorem write_of_lookup {names : List String} {name : String} {bytes : ByteArray}
    (steps : path.steps = names ++ [name]) (ne_here : name ≠ ".") (ne_up : name ≠ "..")
    (found : grown.lookup working path = .ok (.file bytes)) (content : ByteArray) :
    ∃ written, grown.write working path content = .ok written := by
  have there := get?_of_lookup found
  obtain ⟨checked, location, followed, -, closed⟩ := lookup_eq_ok.mp found
  have leads := destination_of_follow followed
  rw [steps] at followed
  obtain ⟨above, walked, entered, -⟩ := follow_concat.mp followed
  have located : grown.locate working path = .ok (some (destination working path)) :=
    locate_eq_some.mpr ⟨checked, names, name, above, steps, ne_here, ne_up, walked, leads ▸ entered⟩
  have open_end : path.endsInSlash = false := by
    rw [Bool.eq_false_iff]
    intro slash
    cases closed slash
  exact ⟨_, write_eq_ok.mpr ⟨located, open_end, closed_of_file there, rfl⟩⟩

end Cleared

section Left

variable {working : Location} {path : FilePath} {above : List Component} {name : List Char}
  {before grown after : FileTree}

theorem made_of_adds (adds : Adds working path.ancestors before grown)
    (same : ∀ location, after.isDirectory location = grown.isDirectory location)
    (location : Location) (isOpen : after.isDirectory location = true) :
    before.isDirectory location = true ∨
      ∃ higher ∈ path.ancestors, after.locate working higher = .ok (some location) := by
  have isOpen := isDirectory_iff.mp ((same location).symm.trans isOpen)
  rcases adds location with unchanged | ⟨-, -, higher, member, located⟩
  · exact .inl (isDirectory_iff.mpr (unchanged.symm.trans isOpen))
  · exact .inr ⟨higher, member, locate_eq (fun other isOpen => (same other).trans isOpen) located⟩

/-- What a failure leaves of a tree in which directories have been added: all but a file in the
temporary place. -/
structure Leaves (working : Location) (path : FilePath) (before grown after : FileTree) : Prop where
  adds : Adds working path.ancestors before grown
  /-- Nothing has been added where the directory of the file was there. -/
  still : Held working path before → before = grown
  same : ∀ location, after.isDirectory location = grown.isDirectory location
  elsewhere : ∀ location, after.get? location = grown.get? location ∨
    after.locate working path.temporary = .ok (some location)

namespace Leaves

variable (left : Leaves working path before grown after)
include left

theorem kept : DirectoriesIn before after :=
  fun location isOpen => (left.same location).trans (left.adds.kept location isOpen)

section Below

variable (ends : path.components = above ++ [.name name])
include ends

theorem below {location : Location} (isPrefix : destination working path <+: location) :
    after.get? location = grown.get? location := by
  rcases left.elsewhere location with same | located
  · exact same
  · exact absurd (locate_eq_destination located) (ne_temporary_of_isPrefix ends isPrefix)

theorem spared {location : Location} (isPrefix : destination working path <+: location) :
    after.get? location = before.get? location ∨
      before.get? location = none ∧ after.get? location = some .directory := by
  rw [left.below ends isPrefix]
  rcases left.adds location with unchanged | ⟨absent, there, -⟩
  · exact .inl unchanged
  · exact .inr ⟨absent, there⟩

/-- Without a step up, no directory is made where the path leads. -/
theorem downward (downward : .up ∉ path.components) {location : Location}
    (isPrefix : destination working path <+: location) :
    after.get? location = before.get? location := by
  rw [left.below ends isPrefix]
  rcases left.adds location with unchanged | ⟨-, -, higher, member, located⟩
  · exact unchanged
  · rw [locate_eq_destination located] at isPrefix
    exact absurd isPrefix (not_isPrefix_of_mem_ancestors ends downward member)

theorem refused (rooted : before.Rooted)
    (unmoved : .up ∉ path.components ∨ Held working path before) :
    after.found? working path = before.found? working path ∧
      ∀ location, destination working path <+: location →
        after.get? location = before.get? location := by
  rcases unmoved with downward | held
  · have here := left.downward ends downward List.prefix_rfl
    exact ⟨found?_congr fun node => ⟨rooted.lookup (mt up_mem_steps.mp downward) here.symm,
      lookup_eq left.kept here⟩, fun location => left.downward ends downward⟩
  · obtain rfl := left.still held
    have here := left.below ends List.prefix_rfl
    exact ⟨found?_congr fun node =>
      ⟨lookup_eq (fun location isOpen => (left.same location).symm.trans isOpen) here.symm,
        lookup_eq left.kept here⟩, fun location => left.below ends⟩

end Below

end Leaves

end Left

section Error

variable {working : Location} {path : FilePath} {content : String} {before after : FileTree}
  {error : WriteError}

theorem leaves_cleared {grown : FileTree} {node : FileNode}
    (prepared : Prepared working path before grown)
    (located : grown.locate working path.temporary =
      .ok (some (destination working path.temporary)))
    (closed : grown.isDirectory (destination working path.temporary) = false) :
    Leaves working path before grown ((grown.insert (destination working path.temporary) node).erase
      (destination working path.temporary)) := by
  have cleared (other : Location) :
      ((grown.insert (destination working path.temporary) node).erase
        (destination working path.temporary)).get? other =
        if other = destination working path.temporary then none else grown.get? other :=
    get?_cleared (ne_nil_of_isDirectory closed) other
  have same (location : Location) :
      ((grown.insert (destination working path.temporary) node).erase
        (destination working path.temporary)).isDirectory location =
          grown.isDirectory location := by
    rw [FileTree.isDirectory, cleared]
    split
    · next here =>
      rw [here, closed]
      rfl
    · rfl
  refine ⟨adds_of_prepared prepared, fun held => eq_of_prepared held prepared, same, ?_⟩
  intro location
  rw [cleared]
  split
  · next here =>
    rw [here]
    exact .inr (locate_eq (fun other isOpen => (same other).trans isOpen) located)
  · exact .inl rfl

theorem exists_leaves
    (failed : (disk working).writeAtomic path content before = (.error error, after)) :
    ∃ grown, Leaves working path before grown after := by
  rcases writeAtomic_eq_error failed with
    ⟨parent, fault, isParent, refused⟩ | ⟨grown, prepared, outcome⟩
  · have along : Along (Adds working path.ancestors)
        ((disk working).makeLineage path.ancestors) := adds_makeLineage
    have along := along before
    have refused : (disk working).makeLineage (parent :: parent.ancestors) before =
        (.error fault, after) := refused
    rw [ancestors_of_parent isParent, refused, ← ancestors_of_parent isParent] at along
    refine ⟨after, along, fun held => ?_, fun _ => rfl, fun _ => .inl rfl⟩
    rw [makeLineage_of_directory (held parent isParent)] at refused
    cases refused
  · refine ⟨grown, ?_⟩
    rcases outcome with ⟨fault, -, rfl⟩ | ⟨written, wrote, rfl⟩
    · exact ⟨adds_of_prepared prepared, fun held => eq_of_prepared held prepared, fun _ => rfl,
        fun _ => .inl rfl⟩
    · obtain ⟨located, -, closed, rfl⟩ := write_eq_ok.mp wrote
      exact leaves_cleared prepared located closed

/-- No file is left in the temporary place of one that could not be written. -/
theorem cleared_of_error {above : List Component} {name : List Char}
    (ends : path.components = above ++ [.name name])
    (failed : (disk working).writeAtomic path content before = (.error error, after))
    (bytes : ByteArray) : after.found? working path.temporary ≠ some (.file bytes) := by
  obtain ⟨parent, step, isParent, isPrefix, absolute, steps, ne_here, ne_up⟩ := temporary_steps ends
  intro found
  have found := found?_eq_some.mp found
  rcases writeAtomic_eq_error failed with
    ⟨other, fault, isParent', refused⟩ | ⟨grown, -, outcome⟩
  · -- The directory could not be made, so nothing is found in it.
    obtain rfl : parent = other := by
      rw [isParent] at isParent'
      exact Option.some.inj isParent'
    obtain ⟨nonempty, missing⟩ := kind?_of_makeLineage_error refused
    exact missing (kind?_of_deeper nonempty isPrefix absolute (List.cons_ne_nil _ _) steps found)
  · rcases outcome with ⟨fault, refused, rfl⟩ | ⟨written, wrote, rfl⟩
    · obtain ⟨written, wrote⟩ := write_of_lookup steps ne_here ne_up found content.toUTF8
      rw [refused] at wrote
      cases wrote
    · obtain ⟨-, -, closed, rfl⟩ := write_eq_ok.mp wrote
      have there := get?_of_lookup found
      rw [get?_cleared (ne_nil_of_isDirectory closed), if_pos rfl] at there
      cases there

end Error

section Outcome

variable {working : Location} {path : FilePath} {content : String} {before after : FileTree}
  {above : List Component} {name : List Char} (ends : path.components = above ++ [.name name])
  (rooted : before.Rooted)
include ends rooted

theorem allOrNothing_of_ok
    (succeeded : (disk working).writeAtomic path content before = (.ok (), after)) :
    AllOrNothing working path content.toUTF8 before (.ok ()) after := by
  have settled := settled_of_writeAtomic ends succeeded
  obtain ⟨grown, written, made, wrote, moved⟩ := writeAtomic_eq_ok.mp succeeded
  have adds : Adds working path.ancestors before grown := adds_of_prepared made
  obtain ⟨-, -, closed_beside, rfl⟩ := write_eq_ok.mp wrote
  obtain ⟨-, -, -, closed, bytes, found, rfl⟩ := move_eq_ok.mp moved
  obtain rfl : content.toUTF8 = bytes := by
    rw [get?_insert _ _ _ _ (ne_nil_of_isDirectory closed_beside), if_pos rfl] at found
    cases found
    rfl
  have same := isDirectory_moved closed_beside closed
  have stays : Along StaysRooted ((disk working).writeAtomic path content) :=
    staysRooted_writeAtomic path content
  have stays := stays before
  have touches : Keeps (Touches working path) ((disk working).writeAtomic path content) :=
    keeps_writeAtomic (.inl rfl) (.inr rfl) content
  have others := touches before
  rw [succeeded] at stays others
  refine {
    written := fun _ => found?_eq_some.mpr
      (lookup_of_locate settled.located settled.written settled.open_ends.2)
    refused := fun failed => absurd rfl failed
    spared := fun failed => absurd rfl failed
    cleared := ?_
    others := ?_
    kept := fun location isOpen => (same location).trans (adds.kept location isOpen)
    made := made_of_adds adds same
    rooted := stays rooted }
  · intro bytes left
    have there := get?_of_lookup (found?_eq_some.mp left)
    rw [settled.cleared] at there
    cases there
  · intro location apart apart'
    apply others
    rintro (rfl | rfl)
    · exact apart settled.located
    · exact apart' settled.beside

theorem allOrNothing_of_error {error : WriteError}
    (failed : (disk working).writeAtomic path content before = (.error error, after)) :
    AllOrNothing working path content.toUTF8 before (.error error) after := by
  obtain ⟨grown, left⟩ := exists_leaves failed
  have stays : Along StaysRooted ((disk working).writeAtomic path content) :=
    staysRooted_writeAtomic path content
  have stays := stays before
  rw [failed] at stays
  refine {
    written := fun succeeded => by cases succeeded
    refused := fun _ => left.refused ends rooted
    spared := fun _ location => left.spared ends
    cleared := cleared_of_error ends failed
    others := ?_
    kept := left.kept
    made := made_of_adds left.adds left.same
    rooted := stays rooted }
  intro location _ apart
  have elsewhere := (left.elsewhere location).resolve_right apart
  exact (fileAt?_congr elsewhere).trans (left.adds.fileAt? location)

end Outcome

/-- A file that is written is at its path with its content, and one that is refused has changed
nothing there, unless a directory was made on a way that steps up again. -/
theorem writeAtomic_allOrNothing (working : Location) {path : FilePath} (content : String)
    {before : FileTree} (rooted : before.Rooted) (named : path.fileName?.isSome = true) :
    AllOrNothing working path content.toUTF8 before
      ((disk working).writeAtomic path content before).1
      ((disk working).writeAtomic path content before).2 := by
  obtain ⟨above, name, ends⟩ := exists_ends named
  rcases ended : (disk working).writeAtomic path content before with ⟨answer, after⟩
  cases answer with
  | error error => exact allOrNothing_of_error ends rooted ended
  | ok _ => exact allOrNothing_of_ok ends rooted ended

def occupied : FileTree where
  entries := [(["docs"], .directory), (["docs", "api.md"], .file "keep".toUTF8),
    (["docs.tmp"], .file "draft".toUTF8)]

theorem writeAtomic_allOrNothing_occupied : occupied.Rooted ∧
    (⟨"docs"⟩ : FilePath).fileName?.isSome = true ∧
    ((disk []).writeAtomic ⟨"docs"⟩ "# Docs" occupied).1.isOk = false ∧
    AllOrNothing [] ⟨"docs"⟩ "# Docs".toUTF8 occupied
      ((disk []).writeAtomic ⟨"docs"⟩ "# Docs" occupied).1
      ((disk []).writeAtomic ⟨"docs"⟩ "# Docs" occupied).2 := by
  have rooted : occupied.Rooted := rooted_of_entries (by decide)
  have named : (⟨"docs"⟩ : FilePath).fileName?.isSome = true := by decide
  exact ⟨rooted, named, by decide +kernel, writeAtomic_allOrNothing [] "# Docs" rooted named⟩

def settingsAstray : FilePath :=
  ⟨"o/lib/configuration.rb/../configuration.rb"⟩

def outputOnly : FileTree where
  entries := [(["o"], .directory)]

/-- The directory that the path steps into, and out of again, is made where the file should be. -/
theorem exists_directory_made_of_file : outputOnly.Rooted ∧
    settingsAstray.fileName?.isSome = true ∧
    ((disk []).writeAtomic settingsAstray "module" outputOnly).1.isOk = false ∧
    outputOnly.kind? [] settingsAstray = none ∧
    ((disk []).writeAtomic settingsAstray "module" outputOnly).2.kind? [] settingsAstray =
      some .directory := by
  refine ⟨rooted_of_entries (by decide), ?_⟩
  decide +kernel

end ClientGem.Output
