import ClientGem.Proofs.FilePath.Confined
import ClientGem.Proofs.FileTree.Frame

/-!
Files written into a directory of a tree. A confined path leads to a place below this directory,
and so does the path at which the file is kept while it is written.
-/

namespace ClientGem.Output

open FilePath FileTree

def IsBelow (root location : Location) : Prop :=
  ∃ above name, location = above ++ [name] ∧ root <+: above

theorem prefix_foldl_afterComponent {components : List Component} (rootless : .root ∉ components)
    (downward : .up ∉ components) (location : Location) :
    location <+: components.foldl afterComponent location := by
  induction components generalizing location with
  | nil => exact List.prefix_rfl
  | cons first rest ih =>
    rw [List.mem_cons, not_or] at rootless downward
    have step : location <+: afterComponent location first := by
      cases first with
      | root => exact absurd rfl rootless.1
      | here => exact List.prefix_rfl
      | up => exact absurd rfl downward.1
      | name name => exact List.prefix_append _ _
    exact step.trans (ih rootless.2 downward.2 _)

theorem here_of_mem_startComponents {path : FilePath} (relative : path.isAbsolute = false) :
    ∀ component ∈ startComponents path.start, component = .here := by
  have rootless : path.start ≠ ['/'] := by simpa [isAbsolute] using relative
  intro component member
  rw [startComponents, if_neg rootless] at member
  split at member
  · exact List.mem_singleton.mp member
  · cases member

/-- A relative path is put behind the one it is joined to. What it begins with is kept, at most,
where nothing stands before it. -/
theorem components_join_relative (base : FilePath) {path : FilePath}
    (relative : path.isAbsolute = false) : ∃ lead, (∀ component ∈ lead, component = .here) ∧
      (base.join path).components =
        base.components ++ lead ++ innerComponents path.text.toList := by
  by_cases empty : base.text = ""
  · have isEmpty : base.isEmpty = true := by simpa [isEmpty] using empty
    refine ⟨startComponents path.start, here_of_mem_startComponents relative, ?_⟩
    rw [join, relative, isEmpty, Bool.or_true, if_pos rfl, components_of_empty empty, components_eq,
      innerComponents_splitStart, List.nil_append]
  · refine ⟨[], by simp, ?_⟩
    rw [components_join_below relative empty, List.append_nil]

theorem foldl_afterComponent_here {lead : List Component}
    (idle : ∀ component ∈ lead, component = .here) (location : Location) :
    lead.foldl afterComponent location = location := by
  induction lead with
  | nil => rfl
  | cons first rest ih =>
    rw [List.foldl_cons, idle first List.mem_cons_self]
    exact ih fun component member => idle component (List.mem_cons_of_mem _ member)

theorem isBelow_temporary {root working : Location} {path : FilePath} {before : List Component}
    {name : List Char} (ends : path.components = before ++ [.name name])
    (below : IsBelow root (destination working path)) :
    IsBelow root (destination working path.temporary) := by
  obtain ⟨above, last, location, inside⟩ := below
  rw [destination, ends, List.foldl_append] at location
  obtain ⟨rfl, -⟩ := List.append_inj' location rfl
  refine ⟨_, String.ofList (name ++ ".tmp".toList), ?_, inside⟩
  rw [destination, components_temporary ends, List.foldl_append]
  rfl

def HasEnding (path : FilePath) : Prop :=
  ∃ cs ending, path.text.toList = cs ++ ending ∧ '/' ∉ ending ∧ 2 < ending.length

theorem isBelow_join {path : FilePath} (confined : path.IsConfined) (hasEnding : HasEnding path)
    (working : Location) (root : FilePath) :
    IsBelow (destination working root) (destination working (root.join path)) ∧
      IsBelow (destination working root) (destination working (root.join path).temporary) := by
  obtain ⟨cs, ending, text, flat, long⟩ := hasEnding
  obtain ⟨above, name, ends⟩ := innerComponents_append_ending flat long cs
  rw [← text] at ends
  have rootless := root_not_mem_innerComponents path.text.toList
  have downward : .up ∉ innerComponents path.text.toList :=
    fun member => ((isConfined_iff path).mp confined).2 (up_mem_innerComponents.mp member)
  rw [ends, List.mem_append, not_or] at rootless downward
  obtain ⟨lead, idle, joined⟩ := components_join_relative root confined.1
  rw [ends, ← List.append_assoc] at joined
  have below : IsBelow (destination working root) (destination working (root.join path)) := by
    refine ⟨above.foldl afterComponent (destination working root), String.ofList name, ?_,
      prefix_foldl_afterComponent rootless.1 downward.1 _⟩
    calc
      destination working (root.join path) =
          [.name name].foldl afterComponent (above.foldl afterComponent
            (lead.foldl afterComponent (destination working root))) := by
        rw [destination, joined, List.foldl_append, List.foldl_append, List.foldl_append]
        rfl
      _ = above.foldl afterComponent (destination working root) ++ [String.ofList name] := by
        rw [foldl_afterComponent_here idle]
        rfl
  exact ⟨below, isBelow_temporary joined below⟩

/-- A file at a confined path is written without a change to any file outside the directory. -/
theorem keeps_directorySink {path : FilePath} (confined : path.IsConfined)
    (hasEnding : HasEnding path) (working : Location) (root : FilePath) (content : String) :
    Keeps (IsBelow (destination working root))
      (directorySink (disk working) root path content) := by
  have below := isBelow_join confined hasEnding working root
  exact keeps_writeAtomic below.1 below.2 content

end ClientGem.Output
