import ClientGem.Proofs.FilePath.Join
import Mathlib.Data.List.DropRight

/-!
The steps of joined paths, and of the paths of the directories that a path goes through. These
directories are found on the way: each has the first steps of the path.
-/

namespace ClientGem.FilePath

def stepsOf (pieces : List (List Char)) : List String :=
  (pieces.filter (!·.isEmpty)).map String.ofList

theorem stepsOf_append (first second : List (List Char)) :
    stepsOf (first ++ second) = stepsOf first ++ stepsOf second := by
  unfold stepsOf
  rw [List.filter_append, List.map_append]

theorem steps_eq (path : FilePath) : path.steps = stepsOf (pieces path.text.toList) :=
  rfl

theorem steps_append_slash (first second : List Char) : stepsOf (pieces (first ++ '/' :: second)) =
    stepsOf (pieces first) ++ stepsOf (pieces second) := by
  rw [pieces_append_slash, stepsOf_append]

theorem steps_splitStart (cs : List Char) : stepsOf (pieces cs) =
    stepsOf (pieces (splitStart cs).1) ++ stepsOf (pieces (splitStart cs).2) := by
  rw [splitStart.eq_def]
  split
  · next rest => exact steps_append_slash [] rest
  · rfl
  · next rest =>
    have behind : stepsOf (pieces ('/' :: rest)) = stepsOf (pieces rest) :=
      steps_append_slash [] rest
    rw [behind]
    exact steps_append_slash here rest
  · rfl

theorem steps_start_body (path : FilePath) :
    path.steps = stepsOf (pieces path.start) ++ stepsOf path.body :=
  steps_splitStart path.text.toList

section Join

variable {path : FilePath} (relative : path.isAbsolute = false) (base : FilePath)
include relative

theorem steps_join : (base.join path).steps = base.steps ++ path.steps := by
  rw [join, relative, Bool.false_or]
  by_cases empty : base.isEmpty = true
  · have nothing : base.text = "" := by simpa [isEmpty] using empty
    have none : base.steps = [] := by
      rw [steps_eq, nothing]
      rfl
    rw [if_pos empty, none, List.nil_append]
  · rw [if_neg empty]
    by_cases ends : base.endsInSlash = true
    · have last : base.text.toList.getLast? = some '/' := by simpa [endsInSlash] using ends
      obtain ⟨before, text⟩ := List.getLast?_eq_some_iff.mp last
      have trailing : stepsOf (pieces (before ++ ['/'])) = stepsOf (pieces before) :=
        (steps_append_slash before []).trans (List.append_nil _)
      rw [if_pos ends, steps_eq, steps_eq, steps_eq, String.toList_append, text, trailing,
        List.append_assoc]
      exact steps_append_slash before path.text.toList
    · rw [if_neg ends, steps_eq, steps_eq, steps_eq, String.toList_append, String.toList_append,
        List.append_assoc]
      exact steps_append_slash base.text.toList path.text.toList

theorem isAbsolute_join : (base.join path).isAbsolute = base.isAbsolute := by
  rw [join, relative, Bool.false_or]
  by_cases empty : base.isEmpty = true
  · have nothing : base.text = "" := by simpa [isEmpty] using empty
    have notAbsolute : base.isAbsolute = false := by
      apply isAbsolute_eq_false
      simp [nothing]
    rw [if_pos empty, relative, notAbsolute]
  · have ne_nil : base.text.toList ≠ [] := by simpa [isEmpty] using empty
    obtain ⟨c, rest, text⟩ := List.exists_cons_of_ne_nil ne_nil
    rw [if_neg empty, Bool.eq_iff_iff, isAbsolute_iff_head, isAbsolute_iff_head]
    split
    · simp [text]
    · simp [text]

end Join

theorem splitStart_start (cs : List Char) :
    splitStart (splitStart cs).1 = ((splitStart cs).1, []) := by
  rw [splitStart.eq_def cs]
  split
  · rfl
  · rfl
  · rfl
  · rfl

theorem splitStart_parent {path : FilePath} {last : List Char} {before : List (List Char)}
    (reversed : path.reversedBody = last :: before) :
    splitStart (path.start ++ ['/'].intercalate (before.dropWhile isIdle).reverse) =
      (path.start, ['/'].intercalate (before.dropWhile isIdle).reverse) := by
  obtain ⟨-, tail, tail_ne_nil, -, body⟩ := body_of_reversedBody reversed
  by_cases none : before.dropWhile isIdle = []
  · rw [none, List.reverse_nil, List.intercalate_nil, List.append_nil]
    exact splitStart_start path.text.toList
  · have kept_ne_nil : (before.dropWhile isIdle).reverse ≠ [] := by simpa using none
    have kept_text := intercalate_dropWhile_ne_nil none
    have behind := intercalate_body path
    rw [body, intercalate_append kept_ne_nil tail_ne_nil] at behind
    generalize ['/'].intercalate (before.dropWhile isIdle).reverse = kept at kept_text behind ⊢
    have text : path.text.toList = (path.start ++ kept) ++ '/' :: ['/'].intercalate tail := by
      rw [← splitStart_append path.text.toList, ← behind]
      simp [start]
    have nonempty : path.start ++ kept ≠ [] := by simp [kept_text]
    have split := splitStart_append_slash nonempty (['/'].intercalate tail)
    rw [← text] at split
    have sameStart : (splitStart (path.start ++ kept)).1 = path.start :=
      (congrArg Prod.fst split).symm
    have whole := splitStart_append (path.start ++ kept)
    rw [sameStart] at whole
    exact Prod.ext sameStart (List.append_cancel_left whole)

/-- The paths above a path are that of the directory that holds it, and those above this one. -/
theorem ancestors_of_reversedBody {path : FilePath} {last : List Char} {before : List (List Char)}
    (reversed : path.reversedBody = last :: before) :
    ∃ parent : FilePath, path.ancestors = parent :: parent.ancestors ∧
      parent.reversedBody = before.dropWhile isIdle ∧ parent.isAbsolute = path.isAbsolute ∧
      ∃ rest, rest ≠ [] ∧ path.steps = parent.steps ++ rest := by
  obtain ⟨visible, tail, tail_ne_nil, tail_filter, body⟩ := body_of_reversedBody reversed
  have split := splitStart_parent reversed
  let kept := (before.dropWhile isIdle).reverse
  let parent : FilePath := ⟨String.ofList (path.start ++ ['/'].intercalate kept)⟩
  have parent_start : parent.start = path.start := by
    rw [start, String.toList_ofList, split]
  have parent_body : parent.body = pieces (['/'].intercalate kept) := by
    rw [FilePath.body, String.toList_ofList, split]
  have cut : kept ≠ [] → pieces (['/'].intercalate kept) = kept := by
    intro ne_nil
    rw [pieces, Text.splitChars_eq_splitOnP]
    apply List.splitOn_intercalate '/' _ ne_nil
    intro piece member
    exact flat_of_mem_body (body ▸ List.mem_append_left _ member)
  have parent_reversed : parent.reversedBody = before.dropWhile isIdle := by
    rw [reversedBody, parent_body]
    by_cases none : kept = []
    · have nothing : before.dropWhile isIdle = [] := by simpa [kept] using none
      rw [none, nothing]
      rfl
    · rw [cut none, List.reverse_reverse, List.dropWhile_idempotent]
  refine ⟨parent, ?_, parent_reversed, ?_, stepsOf tail, ?_, ?_⟩
  · rw [ancestors, reversed, above, ancestors, parent_start, parent_reversed]
  · rw [isAbsolute, isAbsolute, parent_start]
  · have member : last ∈ tail := (List.mem_filter.mp (tail_filter ▸ List.mem_singleton_self _)).1
    have nonempty : last ≠ [] := by
      rintro rfl
      exact absurd visible (by decide)
    have step : String.ofList last ∈ stepsOf tail :=
      List.mem_map_of_mem (List.mem_filter.mpr ⟨member, by simpa using nonempty⟩)
    exact List.ne_nil_of_mem step
  · have parent_steps : stepsOf parent.body = stepsOf kept := by
      rw [parent_body]
      by_cases none : kept = []
      · rw [none]
        rfl
      · rw [cut none]
    rw [steps_start_body, body, stepsOf_append, steps_start_body, parent_start, parent_steps,
      List.append_assoc]

theorem ancestors_of_idle {path : FilePath} (idle : path.reversedBody = []) :
    path.ancestors = if path.start = here then [⟨""⟩] else [] := by
  rw [ancestors, idle, above]

theorem ancestors_of_parent {path parent : FilePath} (isParent : path.parent? = some parent) :
    path.ancestors = parent :: parent.ancestors := by
  cases reversed : path.reversedBody with
  | nil =>
    rw [parent?, ancestors_of_idle reversed] at isParent
    rw [ancestors_of_idle reversed]
    split at isParent
    · next begins =>
      obtain rfl : (⟨""⟩ : FilePath) = parent := by simpa using isParent
      rw [if_pos begins]
      decide +kernel
    · cases isParent
  | cons last before =>
    obtain ⟨first, ancestors, -⟩ := ancestors_of_reversedBody reversed
    rw [parent?, ancestors, List.head?_cons] at isParent
    rw [ancestors, Option.some.inj isParent]

theorem steps_of_mem_ancestors {path higher : FilePath} (member : higher ∈ path.ancestors) :
    higher.isAbsolute = path.isAbsolute ∧
      ∃ rest, rest ≠ [] ∧ path.steps = higher.steps ++ rest := by
  generalize length : path.reversedBody.length = count
  induction count using Nat.strongRecOn generalizing path with
  | ind count ih =>
    cases reversed : path.reversedBody with
    | nil =>
      rw [ancestors_of_idle reversed] at member
      by_cases begins : path.start = here
      · rw [if_pos begins, List.mem_singleton] at member
        have relative : path.isAbsolute = false := by
          rw [isAbsolute, begins]
          rfl
        have steps := steps_start_body path
        rw [begins] at steps
        refine ⟨?_, path.steps, ?_, ?_⟩
        · rw [member, relative]
          rfl
        · rw [steps]
          exact List.cons_ne_nil "." _
        · rw [member]
          rfl
      · rw [if_neg begins] at member
        cases member
    | cons last before =>
      obtain ⟨parent, ancestors, inner, absolute, rest, ne_nil, steps⟩ :=
        ancestors_of_reversedBody reversed
      rw [ancestors] at member
      rcases List.mem_cons.mp member with rfl | further
      · exact ⟨absolute, rest, ne_nil, steps⟩
      · have shorter : parent.reversedBody.length < count := by
          have := (List.dropWhile_sublist isIdle (l := before)).length_le
          rw [← length, reversed, inner, List.length_cons]
          omega
        obtain ⟨absolute', rest', ne_nil', steps'⟩ := ih _ shorter further rfl
        refine ⟨absolute'.trans absolute, rest' ++ rest, by simp [ne_nil], ?_⟩
        rw [steps, steps', List.append_assoc]

end ClientGem.FilePath
