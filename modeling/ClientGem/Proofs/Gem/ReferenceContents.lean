import ClientGem.Proofs.Gem.OneLine
import Mathlib.Data.List.Infix

/-!
The table of contents of the reference, read for the resources it links to. A link says the name of
a class and the anchor of the resource, and there is only one anchor that goes with both.
-/

namespace ClientGem.Gem

open Ruby

def contentsLink (name : String) : String :=
  "- [" ++ className name ++ "](#" ++ name ++ ")"

def linkTarget? (line : String) : Option String :=
  (line.toList.tails.map fun behind => String.ofList behind.dropLast).find? fun name =>
    contentsLink name == line

def authenticationLink : String :=
  "- [Authentication](#authentication)"

def contentsLinks (text : String) : List String :=
  ((((Text.lines text).dropWhile (· != authenticationLink)).drop 1).takeWhile (· != "")).filterMap
    linkTarget?

theorem anchor_not_longer {first second : List Char}
    (same : capitalizeChars first ++ "](#".toList ++ first =
      capitalizeChars second ++ "](#".toList ++ second) : first.length ≤ second.length := by
  apply Nat.le_of_not_lt
  intro longer
  have lengths := congrArg List.length same
  obtain ⟨low, -⟩ := length_capitalizeChars first
  obtain ⟨-, high⟩ := length_capitalizeChars second
  simp only [List.length_append] at lengths
  -- A capital letter takes up to two characters more, so that the anchors differ by one character.
  have one : first.length = second.length + 1 := by omega
  obtain ⟨c, rest, spelled⟩ := List.exists_cons_of_length_eq_add_one one
  rw [spelled, List.length_cons, Nat.add_right_cancel_iff] at one
  have cut : capitalizeChars first ++ [']', '('] ++ ['#', c] ++ rest =
      capitalizeChars second ++ [']'] ++ ['(', '#'] ++ second := by
    rw [spelled] at same ⊢
    simpa using same
  obtain ⟨before, -⟩ := List.append_inj' cut one
  obtain ⟨-, ends⟩ := List.append_inj' before rfl
  cases ends

theorem toList_contentsLink (name : String) : (contentsLink name).toList = "- [".toList ++
    (capitalizeChars name.toList ++ "](#".toList ++ name.toList) ++ [')'] := by
  simp [contentsLink, className]

/-- A class and an anchor that are made from one name are made from no other. -/
theorem contentsLink_injective {first second : String}
    (same : contentsLink first = contentsLink second) : first = second := by
  have chars : capitalizeChars first.toList ++ "](#".toList ++ first.toList =
      capitalizeChars second.toList ++ "](#".toList ++ second.toList := by
    have spelled := congrArg String.toList same
    rw [toList_contentsLink, toList_contentsLink] at spelled
    exact List.append_cancel_left (List.append_cancel_right spelled)
  have length : first.toList.length = second.toList.length :=
    Nat.le_antisymm (anchor_not_longer chars) (anchor_not_longer chars.symm)
  exact String.toList_inj.mp (List.append_inj' chars length).2

theorem linkTarget?_contentsLink (name : String) :
    linkTarget? (contentsLink name) = some name := by
  have candidate : name ∈ (contentsLink name).toList.tails.map fun behind =>
      String.ofList behind.dropLast := by
    have ends : name.toList ++ [')'] <:+ (contentsLink name).toList := by
      rw [toList_contentsLink, ← List.append_assoc, List.append_assoc]
      exact List.suffix_append _ _
    refine List.mem_map.mpr ⟨name.toList ++ [')'], (List.mem_tails _ _).mpr ends, ?_⟩
    rw [List.dropLast_concat, String.ofList_toList]
  unfold linkTarget?
  cases found : ((contentsLink name).toList.tails.map fun behind =>
      String.ofList behind.dropLast).find? fun other => contentsLink other == contentsLink name with
  | none => exact absurd (List.find?_eq_none.mp found name candidate) (by simp)
  | some other =>
    have same := List.find?_some found
    rw [beq_iff_eq] at same
    rw [contentsLink_injective same]

theorem newline_not_mem_contentsLink {name : String} (unbroken : '\n' ∉ name.toList) :
    '\n' ∉ (contentsLink name).toList := by
  have inClass := newline_not_mem_className unbroken
  simp [contentsLink, unbroken, inClass]

/-- Behind its header, the reference begins with links to the resources, in their order. -/
theorem reference_contents {gem : Gem} (names : ∀ name ∈ gem.resourceNames, '\n' ∉ name.toList) :
    ∃ rest, gem.reference = gem.referenceHeader ++ "\n\n" ++ rest ∧
      contentsLinks rest = gem.resourceNames := by
  let start := ["## Table of Contents", "", authenticationLink]
  let contents := start ++ gem.resourceNames.map contentsLink ++ [""]
  obtain ⟨others, text⟩ : ∃ others, gem.reference = gem.referenceHeader ++ "\n\n" ++
      ("\n".intercalate contents ++ "\n" ++ others) := by
    have apart : "\n\n" = "\n" ++ "\n" := by decide
    have spelled : gem.referenceContents =
        "\n".intercalate (start ++ gem.resourceNames.map contentsLink) := rfl
    have joined : "\n".intercalate contents = gem.referenceContents ++ "\n" := by
      rw [spelled, String.intercalate_append_of_ne_nil (by simp [start]) (List.cons_ne_nil _ _),
        String.intercalate_singleton, String.append_empty]
    refine ⟨joinSections ([gem.referenceAuthentication, "## Resources"] ++
      gem.resources.map fun entry => gem.resourceReference entry.1 entry.2), ?_⟩
    rw [joined, reference]
    simp only [joinSections, List.cons_append, List.nil_append, String.intercalate_cons_cons,
      String.append_assoc, apart]
  have unbroken : ∀ line ∈ contents, '\n' ∉ line.toList := by
    have links : ∀ line ∈ gem.resourceNames.map contentsLink, '\n' ∉ line.toList :=
      List.forall_mem_map.mpr fun name member => newline_not_mem_contentsLink (names name member)
    have fixed : ∀ line ∈ start, '\n' ∉ line.toList := by decide
    simp only [contents, List.forall_mem_append, List.forall_mem_singleton]
    exact ⟨⟨fixed, links⟩, by decide⟩
  have lines : Text.lines ("\n".intercalate contents ++ "\n" ++ others) =
      start ++ (gem.resourceNames.map contentsLink ++ "" :: Text.lines others) := by
    rw [Text.lines_intercalate_append (by simp [contents, start]) unbroken]
    simp [contents]
  have visible : ∀ line ∈ gem.resourceNames.map contentsLink, (line != "") = true :=
    List.forall_mem_map.mpr fun name _ => by simp [contentsLink]
  refine ⟨_, text, ?_⟩
  unfold contentsLinks
  rw [lines]
  have skipped :
      (start ++ (gem.resourceNames.map contentsLink ++ "" :: Text.lines others)).dropWhile
        (· != authenticationLink) = authenticationLink ::
          (gem.resourceNames.map contentsLink ++ "" :: Text.lines others) := by
    have before : ∀ line ∈ ["## Table of Contents", ""], (line != authenticationLink) = true := by
      decide
    rw [show start = ["## Table of Contents", ""] ++ [authenticationLink] from rfl,
      List.append_assoc, List.dropWhile_append_of_pos before, List.singleton_append,
      List.dropWhile_cons_of_neg (by decide)]
  rw [skipped, List.drop_one, List.tail_cons, List.takeWhile_append_of_pos visible,
    List.takeWhile_cons_of_neg (by decide), List.append_nil, List.filterMap_map]
  simp only [Function.comp_def, linkTarget?_contentsLink]
  exact List.filterMap_some

end ClientGem.Gem
