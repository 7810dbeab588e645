import ClientGem.Output.Directory
import ClientGem.Proofs.FilePath.Components
import Mathlib.Data.List.TakeWhile

/-!
Components of joined paths, of the directory that holds a path, and of the path at which a file is
kept while it is written.
-/

namespace ClientGem.FilePath

theorem components_eq (path : FilePath) : path.components =
    startComponents path.start ++ innerComponents (splitStart path.text.toList).2 :=
  rfl

theorem innerComponents_nil : innerComponents [] = [] :=
  rfl

theorem innerComponents_slash (cs : List Char) :
    innerComponents ('/' :: cs) = innerComponents cs :=
  innerComponents_append_slash [] cs

/-- What a path begins with does not depend on what is written behind a slash. -/
theorem splitStart_append_slash {cs : List Char} (ne_nil : cs ≠ []) (rest : List Char) :
    splitStart (cs ++ '/' :: rest) = ((splitStart cs).1, (splitStart cs).2 ++ '/' :: rest) := by
  cases cs with
  | nil => exact absurd rfl ne_nil
  | cons c cs =>
    by_cases slash : c = '/'
    · subst slash
      rfl
    · by_cases dot : c = '.'
      · subst dot
        cases cs with
        | nil => rfl
        | cons d cs =>
          by_cases step : d = '/'
          · subst step
            rfl
          · simp [splitStart, step]
      · simp [splitStart, slash, dot]

theorem components_append_slash {base path : FilePath} {rest : List Char} (ne_nil : base.text ≠ "")
    (text : path.text.toList = base.text.toList ++ '/' :: rest) :
    path.components = base.components ++ innerComponents rest := by
  have chars : base.text.toList ≠ [] := by simpa using ne_nil
  rw [components_eq, components_eq, start, start, text, splitStart_append_slash chars]
  simp only [innerComponents_append_slash, List.append_assoc]

theorem splitStart_append (cs : List Char) : (splitStart cs).1 ++ (splitStart cs).2 = cs := by
  rw [splitStart.eq_def]
  split
  · rfl
  · rfl
  · rfl
  · rfl

theorem innerComponents_splitStart (cs : List Char) :
    innerComponents (splitStart cs).2 = innerComponents cs := by
  rw [splitStart.eq_def]
  split
  · exact (innerComponents_slash _).symm
  · rfl
  · next rest =>
    rw [innerComponents_slash]
    exact (innerComponents_append_slash FilePath.here rest).symm
  · rfl

theorem components_of_plain {path : FilePath} (plain : path.start = []) :
    path.components = innerComponents path.text.toList := by
  rw [components_eq, plain, innerComponents_splitStart]
  rfl

/-- The components of a path whose text ends in a slash are those of the text before it. -/
theorem components_endsInSlash {path : FilePath} (ends : path.endsInSlash = true) :
    (path.text.toList = ['/'] ∧ path.components = [.root]) ∨
      ∃ base : FilePath, base.text ≠ "" ∧ path.text.toList = base.text.toList ++ ['/'] ∧
        path.components = base.components := by
  have last : path.text.toList.getLast? = some '/' := by simpa [endsInSlash] using ends
  obtain ⟨before, text⟩ := List.getLast?_eq_some_iff.mp last
  by_cases empty : before = []
  · refine .inl ⟨by rw [text, empty, List.nil_append], ?_⟩
    rw [components_eq, start, text, empty]
    rfl
  · have nonempty : (⟨String.ofList before⟩ : FilePath).text ≠ "" := by simpa using empty
    have split : path.text.toList =
        (⟨String.ofList before⟩ : FilePath).text.toList ++ '/' :: [] := by
      rw [text, String.toList_ofList]
    exact .inr ⟨⟨String.ofList before⟩, nonempty, split, by
      rw [components_append_slash nonempty split, innerComponents_nil, List.append_nil]⟩

/-- A relative path is put behind the components of the path it is joined to. -/
theorem components_join_below {base path : FilePath} (relative : path.isAbsolute = false)
    (nonempty : base.text ≠ "") :
    (base.join path).components = base.components ++ innerComponents path.text.toList := by
  have notEmpty : base.isEmpty = false := by simpa [isEmpty] using nonempty
  rw [join, relative, notEmpty, Bool.or_self, if_neg Bool.false_ne_true]
  by_cases ends : base.endsInSlash = true
  · rw [if_pos ends]
    rcases components_endsInSlash ends with ⟨text, root⟩ | ⟨before, ne_empty, text, same⟩
    · rw [root, components_eq, start, String.toList_append, text]
      rfl
    · rw [same]
      apply components_append_slash ne_empty
      rw [String.toList_append, text, List.append_assoc]
      rfl
  · rw [if_neg ends]
    apply components_append_slash nonempty
    simp

theorem components_of_empty {path : FilePath} (empty : path.text = "") : path.components = [] := by
  rw [components_eq, start, empty]
  rfl

theorem components_join (base : FilePath) {path : FilePath} (plain : path.start = []) :
    (base.join path).components = base.components ++ path.components := by
  have relative : path.isAbsolute = false := by
    rw [isAbsolute, plain]
    rfl
  by_cases empty : base.text = ""
  · have isEmpty : base.isEmpty = true := by simpa [isEmpty] using empty
    rw [join, relative, isEmpty, components_of_empty empty]
    rfl
  · rw [components_join_below relative empty, components_of_plain plain]

theorem intercalate_body (path : FilePath) :
    ['/'].intercalate path.body = (splitStart path.text.toList).2 := by
  rw [body, pieces, Text.splitChars_eq_splitOnP]
  exact List.intercalate_splitOn '/'

theorem flat_of_mem_body {path : FilePath} {piece : List Char} (member : piece ∈ path.body) :
    '/' ∉ piece := by
  intro inPiece
  have notCut := (Text.mem_of_mem_splitChars member inPiece).2
  simp at notCut

theorem innerComponents_intercalate {names : List (List Char)} (ne_nil : names ≠ [])
    (flat : ∀ name ∈ names, '/' ∉ name) :
    innerComponents (['/'].intercalate names) = (names.filter (!isIdle ·)).map component := by
  have joined : pieces (['/'].intercalate names) = names := by
    rw [pieces, Text.splitChars_eq_splitOnP]
    exact List.splitOn_intercalate '/' flat ne_nil
  rw [innerComponents, joined]

theorem intercalate_append {α : Type} {separator : List α} {first second : List (List α)}
    (ne_nil : first ≠ []) (ne_nil' : second ≠ []) :
    separator.intercalate (first ++ second) =
      separator.intercalate first ++ separator ++ separator.intercalate second := by
  induction first with
  | nil => exact absurd rfl ne_nil
  | cons piece first ih =>
    cases first with
    | nil => simp [List.intercalate_cons_of_ne_nil ne_nil']
    | cons other first =>
      have later := ih (List.cons_ne_nil other first)
      rw [List.cons_append, List.intercalate_cons_of_ne_nil (by simp), later,
        List.intercalate_cons_cons]
      simp only [List.append_assoc]

/-- The pieces of a path behind its start, cut before the last that leads anywhere and the idle ones
around it. -/
theorem body_of_reversedBody {path : FilePath} {last : List Char} {before : List (List Char)}
    (reversed : path.reversedBody = last :: before) :
    isIdle last = false ∧ ∃ tail, tail ≠ [] ∧ tail.filter (!isIdle ·) = [last] ∧
      path.body = (before.dropWhile isIdle).reverse ++ tail := by
  have visible : isIdle last = false := by
    have ne_nil : path.reversedBody ≠ [] := by simp [reversed]
    have head : isIdle (path.reversedBody.head ne_nil) = false :=
      List.head_dropWhile_not isIdle ne_nil
    simpa only [reversed, List.head_cons] using head
  have whole : path.body.reverse.takeWhile isIdle ++ last :: before = path.body.reverse := by
    rw [← reversed]
    exact List.takeWhile_append_dropWhile
  have inner : before.takeWhile isIdle ++ before.dropWhile isIdle = before :=
    List.takeWhile_append_dropWhile
  have idle (pieces : List (List Char)) :
      (pieces.takeWhile isIdle).reverse.filter (!isIdle ·) = [] := by
    rw [List.filter_eq_nil_iff]
    intro piece member
    simp [List.mem_takeWhile_imp (List.mem_reverse.mp member)]
  refine ⟨visible, (before.takeWhile isIdle).reverse ++
    last :: (path.body.reverse.takeWhile isIdle).reverse, by simp, ?_, ?_⟩
  · simp [idle, visible]
  · rw [← List.append_assoc, ← List.reverse_append, inner]
    simpa using (congrArg List.reverse whole).symm

theorem components_start (cs : List Char) :
    (⟨String.ofList (splitStart cs).1⟩ : FilePath).components =
      startComponents (splitStart cs).1 := by
  rw [splitStart.eq_def]
  split
  · dsimp only
    decide
  · dsimp only
    decide
  · dsimp only
    decide
  · rfl

/-- The pieces kept for the directory above end in one that leads anywhere, so they are never an
empty text. -/
theorem intercalate_dropWhile_ne_nil {before : List (List Char)}
    (ne_nil : before.dropWhile isIdle ≠ []) :
    ['/'].intercalate (before.dropWhile isIdle).reverse ≠ [] := by
  have visible := List.head_dropWhile_not isIdle ne_nil
  cases kept : before.dropWhile isIdle with
  | nil => exact absurd kept ne_nil
  | cons piece pieces =>
    simp only [kept, List.head_cons] at visible
    have piece_ne_nil : piece ≠ [] := by
      rintro rfl
      exact absurd visible (by decide)
    by_cases empty : pieces = []
    · simpa [empty] using piece_ne_nil
    · rw [List.reverse_cons, intercalate_append (by simpa using empty) (List.cons_ne_nil _ _)]
      simp

/-- A path with a last piece that leads anywhere is that piece behind the components of the
directory that holds it. -/
theorem components_parent {path : FilePath} {last : List Char} {before : List (List Char)}
    (reversed : path.reversedBody = last :: before) :
    ∃ parent, path.parent? = some parent ∧
      path.components = parent.components ++ [component last] := by
  obtain ⟨visible, tail, tail_ne_nil, tail_filter, body⟩ := body_of_reversedBody reversed
  have tail_flat : ∀ piece ∈ tail, '/' ∉ piece := by
    intro piece member
    exact flat_of_mem_body (by rw [body]; exact List.mem_append_right _ member)
  have tail_components : innerComponents (['/'].intercalate tail) = [component last] := by
    rw [innerComponents_intercalate tail_ne_nil tail_flat, tail_filter, List.map_singleton]
  have behind := intercalate_body path
  have text := splitStart_append path.text.toList
  rw [← behind, body] at text
  have above_text : path.parent? = some ⟨String.ofList
      (path.start ++ ['/'].intercalate (before.dropWhile isIdle).reverse)⟩ := by
    rw [parent?, ancestors, reversed, above]
    rfl
  refine ⟨_, above_text, ?_⟩
  by_cases none : before.dropWhile isIdle = []
  · -- Nothing stands before the last piece, so the directory is what the path begins with.
    rw [body, none, List.reverse_nil, List.nil_append] at behind
    rw [components_eq, ← behind, tail_components, none, List.reverse_nil, List.intercalate_nil,
      List.append_nil, start, components_start]
  · have kept_ne_nil : (before.dropWhile isIdle).reverse ≠ [] := by simpa using none
    have kept_text := intercalate_dropWhile_ne_nil none
    generalize (before.dropWhile isIdle).reverse = kept at text kept_ne_nil kept_text ⊢
    have nonempty :
        (⟨String.ofList (path.start ++ ['/'].intercalate kept)⟩ : FilePath).text ≠ "" := by
      simp [kept_text]
    have split : path.text.toList =
        (⟨String.ofList (path.start ++ ['/'].intercalate kept)⟩ : FilePath).text.toList ++
          '/' :: ['/'].intercalate tail := by
      rw [← text, intercalate_append kept_ne_nil tail_ne_nil, String.toList_ofList]
      simp [start]
    rw [components_append_slash nonempty split, tail_components]

theorem components_of_idle {path : FilePath} (idle : path.reversedBody = []) :
    path.components = startComponents path.start := by
  have none : path.body.filter (!isIdle ·) = [] := by
    rw [List.filter_eq_nil_iff]
    intro piece member
    have each := List.dropWhile_eq_nil_iff.mp idle piece (List.mem_reverse.mpr member)
    simp [each]
  rw [components, none, List.map_nil, List.append_nil]

theorem fileName_of_components {path : FilePath} {above : List Component} {name : List Char}
    (ends : path.components = above ++ [.name name]) :
    ∃ parent, path.parent? = some parent ∧ parent.components = above ∧
      path.fileName? = some (String.ofList name) ∧ IsOrdinary name := by
  cases reversed : path.reversedBody with
  | nil =>
    have last := congrArg List.getLast? ends
    rw [components_of_idle reversed, List.getLast?_concat, startComponents] at last
    split at last
    · cases last
    · split at last <;> cases last
  | cons piece before =>
    obtain ⟨parent, isParent, components⟩ := components_parent reversed
    obtain ⟨visible, tail, _, tail_filter, body⟩ := body_of_reversedBody reversed
    have member : piece ∈ path.body := by
      rw [body]
      exact List.mem_append_right _ (List.mem_filter.mp (tail_filter ▸ List.mem_singleton_self _)).1
    obtain ⟨same, last⟩ := List.append_inj' (components.symm.trans ends) rfl
    have last : component piece = .name name := List.head_eq_of_cons_eq last
    have ne_up : piece ≠ up := by
      rintro rfl
      cases last
    obtain rfl : piece = name := by
      rw [component, if_neg ne_up] at last
      exact Component.name.inj last
    have named : path.fileName? = some (String.ofList piece) := by
      rw [fileName?, reversed]
      exact if_neg ne_up
    simp only [isIdle, Bool.or_eq_false_iff, List.isEmpty_eq_false_iff, beq_eq_false_iff_ne]
      at visible
    exact ⟨parent, isParent, same, named, flat_of_mem_body member, visible.1, visible.2, ne_up⟩

theorem start_of_flat {path : FilePath} (flat : '/' ∉ path.text.toList)
    (ne_here : path.text.toList ≠ here) : path.start = [] := by
  rw [start, splitStart.eq_def]
  split
  · next text => exact absurd (text ▸ List.mem_cons_self) flat
  · next text => exact absurd text ne_here
  · next text => exact absurd (text ▸ List.mem_cons_of_mem _ List.mem_cons_self) flat
  · rfl

theorem components_of_ordinary {name : String} (ordinary : IsOrdinary name.toList) :
    (⟨name⟩ : FilePath).start = [] ∧ (⟨name⟩ : FilePath).components = [.name name.toList] := by
  have plain : (⟨name⟩ : FilePath).start = [] := start_of_flat ordinary.1 ordinary.2.2.1
  exact ⟨plain, (components_of_plain plain).trans (innerComponents_of_ordinary ordinary)⟩

section Temporary

variable {path : FilePath} {above : List Component} {name : List Char}
  (ends : path.components = above ++ [.name name])
include ends

/-- A file is written beside its place, under its name with an ending of its own. -/
theorem temporary_eq_join : ∃ parent, path.parent? = some parent ∧ parent.components = above ∧
    path.temporary = parent.join ⟨String.ofList name ++ ".tmp"⟩ ∧
    IsOrdinary (String.ofList name ++ ".tmp").toList := by
  obtain ⟨parent, isParent, inAbove, named, ordinary⟩ := fileName_of_components ends
  refine ⟨parent, isParent, inAbove, ?_, ?_⟩
  · rw [temporary, withFileName, named, isParent]
    rfl
  · rw [String.toList_append, String.toList_ofList]
    exact isOrdinary_append ordinary.1 ordinary.2.1 _ (by decide) (by decide)

theorem components_temporary :
    path.temporary.components = above ++ [.name (name ++ ".tmp".toList)] := by
  obtain ⟨parent, -, inAbove, joined, longer⟩ := temporary_eq_join ends
  obtain ⟨plain, components⟩ := components_of_ordinary longer
  calc
    path.temporary.components =
        (parent.join ⟨String.ofList name ++ ".tmp"⟩).components := by rw [joined]
    _ = parent.components ++ [.name (String.ofList name ++ ".tmp").toList] := by
      rw [components_join parent plain, components]
    _ = above ++ [.name (name ++ ".tmp".toList)] := by
      rw [inAbove, String.toList_append, String.toList_ofList]

end Temporary

end ClientGem.FilePath
