import ClientGem.Proofs.FilePath.Confined
import ClientGem.Proofs.FilePath.Steps

/-!
Paths made of names. With one slash between any two, their steps are the names.
-/

namespace ClientGem.FilePath

def ofNames (names : List String) : FilePath :=
  ⟨"/".intercalate names⟩

theorem ofNames_append_ending (above : List String) (name ending : String) :
    (⟨(ofNames (above ++ [name])).text ++ ending⟩ : FilePath) =
      ofNames (above ++ [name ++ ending]) := by
  unfold ofNames
  congr 1
  by_cases none : above = []
  · simp [none]
  · rw [String.intercalate_append_of_ne_nil none (List.cons_ne_nil _ _),
      String.intercalate_append_of_ne_nil none (List.cons_ne_nil _ _),
      String.intercalate_singleton, String.intercalate_singleton, String.append_assoc]

section Ordinary

variable {names : List String} (ordinary : ∀ name ∈ names, IsOrdinary name.toList)
include ordinary

theorem pieces_ofNames (ne_nil : names ≠ []) :
    pieces (ofNames names).text.toList = names.map String.toList := by
  have chars : names.map String.toList ≠ [] := by simpa using ne_nil
  have flat : ∀ piece ∈ names.map String.toList, '/' ∉ piece := by
    intro piece member
    obtain ⟨name, inNames, rfl⟩ := List.mem_map.mp member
    exact (ordinary name inNames).1
  rw [ofNames, String.toList_intercalate, pieces, Text.splitChars_eq_splitOnP]
  exact List.splitOn_intercalate '/' flat chars

theorem steps_ofNames (ne_nil : names ≠ []) : (ofNames names).steps = names := by
  have nonempty : (names.map String.toList).filter (!·.isEmpty) = names.map String.toList := by
    rw [List.filter_eq_self]
    intro piece member
    obtain ⟨name, inNames, rfl⟩ := List.mem_map.mp member
    simpa using (ordinary name inNames).2.1
  rw [steps_eq, pieces_ofNames ordinary ne_nil, stepsOf, nonempty, List.map_map]
  simp [Function.comp_def]

theorem innerComponents_ofNames (ne_nil : names ≠ []) :
    innerComponents (ofNames names).text.toList = names.map fun name => .name name.toList := by
  have visible : (names.map String.toList).filter (!isIdle ·) = names.map String.toList := by
    rw [List.filter_eq_self]
    intro piece member
    obtain ⟨name, inNames, rfl⟩ := List.mem_map.mp member
    obtain ⟨-, nonempty, ne_here, -⟩ := ordinary name inNames
    simp [isIdle, nonempty, ne_here]
  rw [innerComponents, pieces_ofNames ordinary ne_nil, visible, List.map_map]
  apply List.map_congr_left
  intro name inNames
  exact if_neg (ordinary name inNames).2.2.2

theorem isAbsolute_ofNames (ne_nil : names ≠ []) : (ofNames names).isAbsolute = false := by
  apply isAbsolute_eq_false
  intro head
  obtain ⟨rest, text⟩ := List.head?_eq_some_iff.mp head
  have cut := pieces_ofNames ordinary ne_nil
  -- A slash at the start would leave a piece without a text before it.
  have empty : [] ∈ pieces (ofNames names).text.toList := by
    rw [text]
    have split : pieces ('/' :: rest) = pieces [] ++ pieces rest := pieces_append_slash [] rest
    rw [split]
    exact List.mem_append_left _ (List.mem_singleton_self _)
  rw [cut] at empty
  obtain ⟨name, inNames, nothing⟩ := List.mem_map.mp empty
  exact (ordinary name inNames).2.1 nothing

end Ordinary

def IsPlain (path : FilePath) : Prop :=
  ∀ component ∈ path.components, ∃ name, component = .name name

instance (component : Component) : Decidable (∃ name, component = .name name) :=
  match component with
  | .name name => .isTrue ⟨name, rfl⟩
  | .root => .isFalse nofun
  | .here => .isFalse nofun
  | .up => .isFalse nofun

instance (path : FilePath) : Decidable path.IsPlain :=
  inferInstanceAs (Decidable (∀ component ∈ path.components, _))

def componentsOf (names : List String) : List Component :=
  names.map fun name => .name name.toList

theorem componentsOf_injective : Function.Injective componentsOf := by
  apply List.map_injective_iff.mpr
  intro name other same
  exact String.toList_inj.mp (Component.name.inj same)

theorem exists_componentsOf {components : List Component}
    (plain : ∀ component ∈ components, ∃ name, component = .name name) :
    ∃ names, components = componentsOf names := by
  induction components with
  | nil => exact ⟨[], rfl⟩
  | cons first rest ih =>
    obtain ⟨⟨name, rfl⟩, others⟩ := List.forall_mem_cons.mp plain
    obtain ⟨names, rfl⟩ := ih others
    exact ⟨String.ofList name :: names, by simp [componentsOf]⟩

theorem start_of_names {path : FilePath} {names : List String}
    (leads : path.components = componentsOf names) : path.start = [] := by
  have inside : ∀ component ∈ startComponents path.start, ∃ name, component = .name name := by
    intro component member
    have inPath : component ∈ path.components := List.mem_append_left _ member
    rw [leads] at inPath
    obtain ⟨name, -, rfl⟩ := List.mem_map.mp inPath
    exact ⟨name.toList, rfl⟩
  have begins : path.start = ['/'] ∨ path.start = here ∨ path.start = [] := by
    rw [start, splitStart.eq_def]
    split <;> simp
  rcases begins with slash | dot | none
  · rw [slash] at inside
    obtain ⟨name, same⟩ := inside .root (by decide)
    cases same
  · rw [dot] at inside
    obtain ⟨name, same⟩ := inside .here (by decide)
    cases same
  · exact none

end ClientGem.FilePath
