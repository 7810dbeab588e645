import ClientGem.Proofs.FilePath.Join

/-!
Paths that stay below whatever they are joined to: those that do not begin at the root and have no
step up. A path that is joined together is confined when all its parts are.
-/

namespace ClientGem.FilePath

/-- The path is relative and has no step up. -/
def IsConfined (path : FilePath) : Prop :=
  path.isAbsolute = false ∧ .up ∉ path.components

instance (path : FilePath) : Decidable path.IsConfined :=
  inferInstanceAs (Decidable (_ ∧ _))

theorem root_mem_startComponents {start : List Char} :
    .root ∈ startComponents start ↔ start = ['/'] := by
  unfold startComponents
  by_cases root : start = ['/']
  · simp [root]
  · rw [if_neg root]
    split
    · simp [root]
    · simp [root]

theorem up_not_mem_startComponents (start : List Char) : .up ∉ startComponents start := by
  unfold startComponents
  split
  · decide
  · split
    · decide
    · decide

theorem root_not_mem_innerComponents (cs : List Char) : .root ∉ innerComponents cs := by
  intro member
  obtain ⟨piece, -, same⟩ := List.mem_map.mp member
  unfold component at same
  split at same
  · cases same
  · cases same

theorem up_mem_innerComponents {cs : List Char} : .up ∈ innerComponents cs ↔ up ∈ pieces cs := by
  constructor
  · intro member
    obtain ⟨piece, inPieces, same⟩ := List.mem_map.mp member
    unfold component at same
    split at same
    · next isUp => exact isUp ▸ (List.mem_filter.mp inPieces).1
    · cases same
  · intro member
    exact List.mem_map.mpr ⟨up, List.mem_filter.mpr ⟨member, by decide⟩, by decide⟩

theorem isAbsolute_iff_root_mem {path : FilePath} :
    path.isAbsolute = true ↔ .root ∈ path.components := by
  rw [components_eq, List.mem_append, root_mem_startComponents, isAbsolute, beq_iff_eq,
    or_iff_left (root_not_mem_innerComponents _)]

theorem up_mem_components {path : FilePath} :
    .up ∈ path.components ↔ up ∈ pieces path.text.toList := by
  rw [components_eq, List.mem_append, or_iff_right (up_not_mem_startComponents _),
    innerComponents_splitStart, up_mem_innerComponents]

theorem isConfined_iff (path : FilePath) :
    path.IsConfined ↔ path.isAbsolute = false ∧ up ∉ pieces path.text.toList := by
  rw [IsConfined, up_mem_components]

theorem join_of_absolute (base : FilePath) {path : FilePath} (absolute : path.isAbsolute = true) :
    base.join path = path := by
  rw [join, absolute, Bool.true_or, if_pos rfl]

/-- An absolute path takes the place of the one it is joined to; any other adds its steps. -/
theorem isConfined_join {base : FilePath} (nonempty : base.text ≠ "") (path : FilePath) :
    (base.join path).IsConfined ↔ base.IsConfined ∧ path.IsConfined := by
  cases absolute : path.isAbsolute with
  | true => simp [join_of_absolute base absolute, IsConfined, absolute]
  | false =>
    have joined := components_join_below absolute nonempty
    have root : (base.join path).isAbsolute = true ↔ base.isAbsolute = true := by
      rw [isAbsolute_iff_root_mem, isAbsolute_iff_root_mem, joined, List.mem_append,
        or_iff_left (root_not_mem_innerComponents _)]
    rw [isConfined_iff path, IsConfined, IsConfined, joined, List.mem_append,
      up_mem_innerComponents, Bool.eq_false_iff, Bool.eq_false_iff, Ne, Ne, root, absolute]
    simp only [not_or, true_and, and_assoc]

theorem exists_last_piece (cs : List Char) :
    '/' ∉ cs ∨ ∃ before last, cs = before ++ '/' :: last ∧ '/' ∉ last := by
  by_cases slash : '/' ∈ cs
  · obtain ⟨after, before, reversed, flat⟩ :=
      List.eq_append_cons_of_mem (List.mem_reverse.mpr slash)
    refine .inr ⟨before.reverse, after.reverse, ?_, by simpa using flat⟩
    simpa using congrArg List.reverse reversed
  · exact .inl slash

section Ending

variable {ending : List Char} (flat : '/' ∉ ending) (long : 2 < ending.length)
include flat long

/-- An ending changes the last piece only, and this to a name. -/
theorem pieces_append_ending (cs : List Char) :
    ∃ name, IsOrdinary name ∧ pieces (cs ++ ending) = (pieces cs).dropLast ++ [name] := by
  have ordinary {last : List Char} (flat_last : '/' ∉ last) : IsOrdinary (last ++ ending) := by
    apply isOrdinary_of_long
    · simp [flat_last, flat]
    · rw [List.length_append]
      omega
  rcases exists_last_piece cs with one | ⟨before, last, rfl, one⟩
  · refine ⟨cs ++ ending, ordinary one, ?_⟩
    rw [pieces_of_flat (ordinary one).1, pieces_of_flat one]
    rfl
  · refine ⟨last ++ ending, ordinary one, ?_⟩
    rw [List.append_assoc, List.cons_append, pieces_append_slash, pieces_append_slash,
      pieces_of_flat (ordinary one).1, pieces_of_flat one, List.dropLast_concat]

theorem up_mem_pieces_append {cs : List Char} :
    up ∈ pieces (cs ++ ending) ↔ up ∈ (pieces cs).dropLast := by
  obtain ⟨name, ordinary, pieces⟩ := pieces_append_ending flat long cs
  rw [pieces, List.mem_append, List.mem_singleton]
  exact or_iff_left (fun same => ordinary.2.2.2 same.symm)

theorem innerComponents_append_ending (cs : List Char) :
    ∃ above name, innerComponents (cs ++ ending) = above ++ [.name name] := by
  obtain ⟨name, ⟨-, ne_nil, ne_here, ne_up⟩, pieces⟩ := pieces_append_ending flat long cs
  refine ⟨((FilePath.pieces cs).dropLast.filter (!isIdle ·)).map component, name, ?_⟩
  rw [innerComponents, pieces]
  simp [isIdle, component, ne_nil, ne_here, ne_up]

end Ending

end ClientGem.FilePath
