import ClientGem.Proofs.FilePath.OfNames
import ClientGem.Proofs.Output.Confinement
import ClientGem.Proofs.Output.InPlace

/-!
Files at paths made of names, below any directory. They have nothing to do with each other when
their paths differ and the place in which one is kept before is on the way to no other.
-/

namespace ClientGem.Output

open FilePath FileTree

/-- Names that lead to a file, of which the last is that of the file itself. -/
structure Place where
  above : List String
  name : String

namespace Place

def names (place : Place) : List String :=
  place.above ++ [place.name]

def path (place : Place) : FilePath :=
  ofNames place.names

def beside (place : Place) : Place :=
  { place with name := place.name ++ ".tmp" }

def IsOrdinary (place : Place) : Prop :=
  ∀ name ∈ place.names, FilePath.IsOrdinary name.toList

theorem names_ne_nil (place : Place) : place.names ≠ [] := by
  simp [names]

theorem path_beside (place : Place) :
    place.beside.path = ⟨place.path.text ++ ".tmp"⟩ :=
  (ofNames_append_ending place.above place.name ".tmp").symm

theorem isOrdinary_beside {place : Place} (ordinary : place.IsOrdinary) :
    place.beside.IsOrdinary := by
  intro name member
  rcases List.mem_append.mp member with inAbove | last
  · exact ordinary name (List.mem_append_left _ inAbove)
  · obtain ⟨flat, ne_nil, -⟩ := ordinary place.name (by simp [names])
    rw [List.mem_singleton.mp last, beside, String.toList_append]
    exact isOrdinary_append flat ne_nil _ (by decide) (by decide)

end Place

theorem afterStep_of_ordinary (location : Location) {name : String}
    (ordinary : FilePath.IsOrdinary name.toList) :
    afterStep location name = location ++ [name] := by
  obtain ⟨-, -, ne_here, ne_up⟩ := ordinary
  rw [afterStep, if_neg, if_neg]
  · rintro rfl
    exact ne_up rfl
  · rintro rfl
    exact ne_here rfl

theorem foldl_afterStep_of_ordinary {names : List String}
    (ordinary : ∀ name ∈ names, FilePath.IsOrdinary name.toList) (location : Location) :
    names.foldl afterStep location = location ++ names := by
  induction names generalizing location with
  | nil => simp
  | cons name names ih =>
    obtain ⟨first, rest⟩ := List.forall_mem_cons.mp ordinary
    rw [List.foldl_cons, afterStep_of_ordinary location first, ih rest, List.append_assoc,
      List.singleton_append]

section Place

variable {place : Place} (ordinary : place.IsOrdinary) (working : Location) (root : FilePath)
include ordinary

theorem isAbsolute_path : place.path.isAbsolute = false :=
  isAbsolute_ofNames ordinary place.names_ne_nil

theorem steps_join_path : (root.join place.path).steps = root.steps ++ place.names := by
  rw [steps_join (isAbsolute_path ordinary), Place.path, steps_ofNames ordinary place.names_ne_nil]

theorem destination_join_path :
    destination working (root.join place.path) = destination working root ++ place.names := by
  rw [destination_join working root (isAbsolute_path ordinary), Place.path,
    steps_ofNames ordinary place.names_ne_nil, foldl_afterStep_of_ordinary ordinary]

theorem isNamed_join_path : IsNamed (root.join place.path) := by
  obtain ⟨lead, -, joined⟩ := components_join_relative root (isAbsolute_path ordinary)
  refine ⟨root.components ++ lead ++ place.above.map fun step => .name step.toList,
    place.name.toList, ?_⟩
  rw [joined, Place.path, innerComponents_ofNames ordinary place.names_ne_nil, Place.names,
    List.map_append, ← List.append_assoc]
  rfl

theorem destination_join_temporary : destination working (root.join place.path).temporary =
    destination working root ++ place.beside.names := by
  obtain ⟨before, name, ends⟩ := isNamed_join_path ordinary root
  obtain ⟨target, temporary⟩ := destination_temporary working ends
  rw [destination_join_path ordinary, Place.names, ← List.append_assoc] at target
  obtain ⟨sameAbove, sameName⟩ := List.append_inj' target rfl
  have longer : String.ofList (name ++ ".tmp".toList) = place.name ++ ".tmp" := by
    rw [List.head_eq_of_cons_eq sameName, ← String.toList_inj]
    simp
  rw [temporary, ← sameAbove, longer, List.append_assoc]
  rfl

end Place

structure PlacesApart (earlier later : Place) : Prop where
  target : earlier.names ≠ later.names
  target_beside : earlier.names ≠ later.beside.names
  beside_target : earlier.beside.names ≠ later.names
  onWay : ¬earlier.beside.names <+: later.above

theorem PlacesApart.beside {earlier later : Place} (apart : PlacesApart earlier later) :
    earlier.beside.names ≠ later.beside.names := by
  intro same
  obtain ⟨sameAbove, sameName⟩ := List.append_inj' same rfl
  have chars := congrArg String.toList (List.head_eq_of_cons_eq sameName)
  rw [Place.beside, Place.beside, String.toList_append, String.toList_append] at chars
  have names := String.toList_inj.mp (List.append_cancel_right chars)
  have above : earlier.above = later.above := sameAbove
  exact apart.target (by rw [Place.names, Place.names, above, names])

theorem apart_of_places {earlier later : Place} (ordinary : earlier.IsOrdinary)
    (ordinary' : later.IsOrdinary) (apart : PlacesApart earlier later) (working : Location)
    (root : FilePath) : Apart working (root.join earlier.path) (root.join later.path) := by
  have first := destination_join_path ordinary working root
  have second := destination_join_path ordinary' working root
  have first_beside := destination_join_temporary ordinary working root
  have second_beside := destination_join_temporary ordinary' working root
  constructor
  · rintro (same | same)
    · rw [first, second] at same
      exact apart.target (List.append_cancel_left same)
    · rw [first, second_beside] at same
      exact apart.target_beside (List.append_cancel_left same)
  · rintro (same | same)
    · rw [first_beside, second] at same
      exact apart.beside_target (List.append_cancel_left same)
    · rw [first_beside, second_beside] at same
      exact apart.beside (List.append_cancel_left same)
  · intro higher member leads
    obtain ⟨absolute, rest, rest_ne_nil, steps⟩ := steps_of_mem_ancestors member
    rw [steps_join_path ordinary'] at steps
    rw [isAbsolute_join (isAbsolute_path ordinary')] at absolute
    have reached : destination working higher =
        higher.steps.foldl afterStep (startOf working root) := by
      rw [destination_eq_foldl_steps, startOf, absolute, ← startOf]
    rcases List.append_eq_append_iff.mp steps with ⟨inner, split, names⟩ | ⟨inner, split, -⟩
    · -- The directory is one of those below the root.
      have ordinaryInner : ∀ step ∈ inner, FilePath.IsOrdinary step.toList := by
        intro step inInner
        exact ordinary' step (names ▸ List.mem_append_left _ inInner)
      rw [reached, split, List.foldl_append, ← destination_eq_foldl_steps,
        foldl_afterStep_of_ordinary ordinaryInner, first_beside] at leads
      obtain rfl := List.append_cancel_left leads
      obtain ⟨middle, last, rfl⟩ := (List.eq_nil_or_concat' rest).resolve_left rest_ne_nil
      rw [Place.names, ← List.append_assoc] at names
      exact absurd ⟨middle, (List.append_inj' names rfl).1.symm⟩ apart.onWay
    · -- The directory is above the root, and so above the earlier path.
      refine ⟨higher.steps, inner ++ earlier.names, by simp [Place.names], ?_, ?_⟩
      · rw [steps_join_path ordinary, split, List.append_assoc]
      · rw [leads, reached, startOf, startOf, isAbsolute_join (isAbsolute_path ordinary)]

end ClientGem.Output
