import ClientGem.Proofs.PathTemplate.Segmentation
import Mathlib.Data.List.Nodup

/-!
The names of the placeholders of a path: those of its segments, each once and in the order in which
they come first.
-/

namespace ClientGem.PathTemplate

section FirstOccurrences

variable {α : Type} [BEq α] [LawfulBEq α]

theorem firstOccurrences_eq_eraseDups (seen names : List α) :
    firstOccurrences seen names = (names.filter (!seen.contains ·)).eraseDups := by
  induction names generalizing seen with
  | nil => rfl
  | cons name names ih =>
    rw [firstOccurrences]
    split
    · next known => rw [ih, List.filter_cons_of_neg (by simpa using known)]
    · next fresh =>
      have rest : names.filter (!(name :: seen).contains ·) =
          (names.filter (!seen.contains ·)).filter (fun other => !other == name) := by
        rw [List.filter_filter]
        congr 1
        funext other
        simp only [List.contains_cons, Bool.not_or]
      rw [ih, rest, List.filter_cons_of_pos (by simpa using fresh), List.eraseDups_cons]

theorem mem_firstOccurrences {seen names : List α} {name : α} :
    name ∈ firstOccurrences seen names ↔ name ∈ names ∧ name ∉ seen := by
  rw [firstOccurrences_eq_eraseDups, List.mem_eraseDups, List.mem_filter]
  simp

theorem nodup_firstOccurrences (seen names : List α) : (firstOccurrences seen names).Nodup := by
  induction names generalizing seen with
  | nil => exact List.nodup_nil
  | cons name names ih =>
    rw [firstOccurrences]
    split
    · exact ih seen
    · rw [List.nodup_cons]
      exact ⟨fun again => (mem_firstOccurrences.mp again).2 List.mem_cons_self, ih (name :: seen)⟩

/-- Of two names listed, the second occurs only behind the first occurrence of the first. -/
theorem pairwise_firstOccurrences (seen names : List α) :
    (firstOccurrences seen names).Pairwise fun first second =>
      ∃ before after, names = before ++ first :: after ∧ first ∉ before ∧
        second ∉ before ++ [first] := by
  induction names generalizing seen with
  | nil => exact .nil
  | cons name names ih =>
    have later (other : List α) (passed : ∀ listed ∈ firstOccurrences other names, listed ≠ name) :
        (firstOccurrences other names).Pairwise fun first second =>
          ∃ before after, name :: names = before ++ first :: after ∧ first ∉ before ∧
            second ∉ before ++ [first] := by
      apply (ih other).imp_of_mem
      intro first second inFirst inSecond ⟨before, after, split, absent, behind⟩
      refine ⟨name :: before, after, by rw [split, List.cons_append], ?_, ?_⟩
      · exact List.not_mem_cons_of_ne_of_not_mem (passed first inFirst) absent
      · exact List.not_mem_cons_of_ne_of_not_mem (passed second inSecond) behind
    rw [firstOccurrences]
    split
    · next known =>
      apply later
      intro listed member same
      rw [same] at member
      exact (mem_firstOccurrences.mp member).2 (by simpa using known)
    · have fresh : ∀ listed ∈ firstOccurrences (name :: seen) names, listed ≠ name := by
        intro listed member same
        exact (mem_firstOccurrences.mp member).2 (by simp [same])
      refine List.pairwise_cons.mpr ⟨fun listed member => ?_, later _ fresh⟩
      exact ⟨[], names, rfl, List.not_mem_nil, by simpa using fresh listed member⟩

end FirstOccurrences

theorem mem_placeholderNames {segments : List Segment} {name : List Char} :
    name ∈ placeholderNames segments ↔ .placeholder name ∈ segments := by
  unfold placeholderNames
  rw [mem_firstOccurrences, List.mem_filterMap]
  constructor
  · rintro ⟨⟨segment, member, named⟩, -⟩
    cases segment with
    | literal text => cases named
    | placeholder other =>
      obtain rfl : other = name := Option.some.inj named
      exact member
  · intro member
    exact ⟨⟨.placeholder name, member, rfl⟩, List.not_mem_nil⟩

theorem mem_params {path name : String} :
    name ∈ params path ↔ .placeholder name.toList ∈ parse path := by
  unfold params
  rw [List.mem_map]
  constructor
  · rintro ⟨chars, member, rfl⟩
    rw [String.toList_ofList]
    exact mem_placeholderNames.mp member
  · intro member
    exact ⟨name.toList, mem_placeholderNames.mpr member, String.ofList_toList⟩

theorem isName_of_mem_params {path name : String} (member : name ∈ params path) :
    IsName name.toList :=
  (isSegmentation_parse path).wellFormed _ (mem_params.mp member)

theorem nodup_params (path : String) : (params path).Nodup :=
  (nodup_firstOccurrences [] _).map (fun _ _ same => String.ofList_injective same)

end ClientGem.PathTemplate
