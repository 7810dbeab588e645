import ClientGem.FilePath
import ClientGem.Proofs.Text.Split

/-!
The components of a path that is put together from parts.
-/

namespace ClientGem.FilePath

def innerComponents (cs : List Char) : List Component :=
  ((pieces cs).filter (!isIdle ·)).map component

theorem pieces_append_slash (first second : List Char) :
    pieces (first ++ '/' :: second) = pieces first ++ pieces second := by
  simp only [pieces, Text.splitChars_eq_splitOnP]
  exact List.splitOnP_append_cons first second rfl

theorem innerComponents_append_slash (first second : List Char) :
    innerComponents (first ++ '/' :: second) = innerComponents first ++ innerComponents second := by
  unfold innerComponents
  rw [pieces_append_slash, List.filter_append, List.map_append]

def IsOrdinary (name : List Char) : Prop :=
  '/' ∉ name ∧ name ≠ [] ∧ name ≠ here ∧ name ≠ up

instance (name : List Char) : Decidable (IsOrdinary name) :=
  inferInstanceAs (Decidable (_ ∧ _ ∧ _ ∧ _))

theorem isOrdinary_of_long {name : List Char} (flat : '/' ∉ name) (long : 2 < name.length) :
    IsOrdinary name := by
  refine ⟨flat, ?_, ?_, ?_⟩
  all_goals
    rintro rfl
    exact absurd long (by decide)

theorem isOrdinary_append {stem : List Char} (flat : '/' ∉ stem) (ne_nil : stem ≠ [])
    (ending : List Char) (flat_ending : '/' ∉ ending) (long : 2 ≤ ending.length) :
    IsOrdinary (stem ++ ending) := by
  apply isOrdinary_of_long
  · simp [flat, flat_ending]
  · have positive := List.length_pos_iff.mpr ne_nil
    rw [List.length_append]
    omega

theorem pieces_of_flat {cs : List Char} (flat : '/' ∉ cs) : pieces cs = [cs] :=
  Text.splitChars_of_forall (Text.beq_eq_false_of_not_mem flat)

theorem innerComponents_of_ordinary {name : List Char} (ordinary : IsOrdinary name) :
    innerComponents name = [.name name] := by
  obtain ⟨flat, ne_nil, ne_here, ne_up⟩ := ordinary
  unfold innerComponents
  rw [pieces_of_flat flat]
  simp [isIdle, component, ne_nil, ne_here, ne_up]

theorem innerComponents_of_flat {cs : List Char} (flat : '/' ∉ cs) :
    (isIdle cs = true ∧ innerComponents cs = []) ∨ innerComponents cs = [component cs] := by
  unfold innerComponents
  rw [pieces_of_flat flat]
  cases idle : isIdle cs with
  | true => simp [idle]
  | false => simp [idle]

theorem components_of_head {path : FilePath} {c : Char} {cs : List Char}
    (text : path.text.toList = c :: cs) (ne_slash : c ≠ '/') (ne_dot : c ≠ '.') :
    path.components = innerComponents path.text.toList := by
  have start : splitStart path.text.toList = ([], path.text.toList) := by
    rw [text, splitStart.eq_def]
    split
    · next same => exact absurd (List.cons.inj same).1 ne_slash
    · next same => exact absurd (List.cons.inj same).1 ne_dot
    · next same => exact absurd (List.cons.inj same).1 ne_dot
    · rfl
  rw [components, FilePath.start, body, start]
  rfl

theorem components_below {dir : List Char} {path : FilePath} {rest : List Char}
    (text : path.text.toList = dir ++ '/' :: rest) (ordinary : IsOrdinary dir)
    (undotted : dir.head? ≠ some '.') :
    path.components = .name dir :: innerComponents rest := by
  cases dir with
  | nil => exact absurd rfl ordinary.2.1
  | cons c dir =>
    have ne_slash : c ≠ '/' := fun same => ordinary.1 (by simp [same])
    have ne_dot : c ≠ '.' := by simpa using undotted
    rw [components_of_head text ne_slash ne_dot, text, innerComponents_append_slash,
      innerComponents_of_ordinary ordinary, List.singleton_append]

theorem isAbsolute_iff_head {path : FilePath} :
    path.isAbsolute = true ↔ path.text.toList.head? = some '/' := by
  unfold isAbsolute
  rw [start, splitStart.eq_def]
  split
  · next text => simp [text]
  · next text => simp [text, here]
  · next text => simp [text, here]
  · next other _ _ =>
    constructor
    · intro root
      cases root
    · intro head
      obtain ⟨rest, text⟩ := List.head?_eq_some_iff.mp head
      exact absurd text (other rest)

theorem isAbsolute_eq_false {path : FilePath} (relative : path.text.toList.head? ≠ some '/') :
    path.isAbsolute = false :=
  Bool.eq_false_iff.mpr fun absolute => relative (isAbsolute_iff_head.mp absolute)

theorem join_text {base path : FilePath} (relative : path.text.toList.head? ≠ some '/')
    (nonempty : base.text ≠ "") (open_end : base.text.toList.getLast? ≠ some '/') :
    (base.join path).text = base.text ++ "/" ++ path.text := by
  have isEmpty : base.isEmpty = false := by simpa [isEmpty] using nonempty
  have endsInSlash : base.endsInSlash = false := by simpa [endsInSlash] using open_end
  unfold join
  rw [isAbsolute_eq_false relative, isEmpty, endsInSlash]
  rfl

end ClientGem.FilePath
