import ClientGem.Text.Basic

/-!
Cutting a text is the library's splitting of lists, so that texts joined with a separator they do
not hold are found again. Where one text is put in place of another, the pattern is replaced where
it begins at the front, and text in which it does not begin is passed over.
-/

namespace ClientGem.Text

theorem splitChars_eq_splitOnP (p : Char → Bool) (cs : List Char) :
    splitChars p cs = cs.splitOnP p := by
  induction cs with
  | nil => rfl
  | cons c cs ih =>
    rw [splitChars, List.splitOnP_cons_eq_if_modifyHead, ih]
    cases same : cs.splitOnP p with
    | nil => exact absurd same (List.splitOnP_ne_nil p cs)
    | cons piece pieces => rfl

/-- What begins a text and does not have the character at which the text is cut begins what stands
before the cut. -/
theorem prefix_of_prefix_append_cons {α : Type} {c : α} {start before behind : List α}
    (uncut : c ∉ start) (begins : start <+: before ++ c :: behind) : start <+: before := by
  rcases List.prefix_or_prefix_of_prefix begins (List.prefix_append before _) with
    inside | ⟨more, rfl⟩
  · exact inside
  · cases more with
    | nil => simp
    | cons d more =>
      obtain ⟨rfl, -⟩ := List.cons_prefix_cons.mp ((List.prefix_append_right_inj before).mp begins)
      exact absurd (by simp) uncut

theorem append_cons_inj {α : Type} {c : α} {first second rest rest' : List α}
    (uncut : c ∉ first) (uncut' : c ∉ second) (same : first ++ c :: rest = second ++ c :: rest') :
    first = second ∧ rest = rest' := by
  have shorter : first <+: second := prefix_of_prefix_append_cons uncut ⟨_, same⟩
  have longer : second <+: first := prefix_of_prefix_append_cons uncut' ⟨_, same.symm⟩
  obtain rfl := shorter.eq_of_length_le longer.length_le
  exact ⟨rfl, by simpa using same⟩

theorem beq_eq_false_of_not_mem {c : Char} {cs : List Char} (absent : c ∉ cs) :
    ∀ d ∈ cs, (d == c) = false := by
  intro d member
  exact beq_eq_false_iff_ne.mpr fun same => absent (same ▸ member)

theorem splitChars_of_forall {p : Char → Bool} {piece : List Char}
    (whole : ∀ c ∈ piece, p c = false) : splitChars p piece = [piece] := by
  rw [splitChars_eq_splitOnP, List.splitOnP_eq_singleton whole]

theorem splitChars_append_cons {p : Char → Bool} {piece : List Char} {c : Char}
    (whole : ∀ d ∈ piece, p d = false) (cut : p c = true) (rest : List Char) :
    splitChars p (piece ++ c :: rest) = piece :: splitChars p rest := by
  rw [splitChars_eq_splitOnP, splitChars_eq_splitOnP,
    List.splitOnP_append_cons_of_forall_mem whole c cut]

/-- The pieces before a separator and behind it are cut one apart from the other. -/
theorem splitChars_append_cut {p : Char → Bool} {c : Char} (cut : p c = true)
    (before behind : List Char) :
    splitChars p (before ++ c :: behind) = splitChars p before ++ splitChars p behind := by
  simp only [splitChars_eq_splitOnP]
  exact List.splitOnP_append_cons before behind cut

/-- To cut a text whose characters are changed is to change the pieces, where no separator is made
or lost. -/
theorem splitChars_map {p : Char → Bool} {f : Char → Char} (keeps : ∀ c, p (f c) = p c)
    (cs : List Char) : splitChars p (cs.map f) = (splitChars p cs).map (List.map f) := by
  induction cs with
  | nil => rfl
  | cons c cs ih =>
    rw [List.map_cons, splitChars, splitChars, keeps, ih]
    split
    · rfl
    · cases splitChars p cs with
      | nil => rfl
      | cons piece pieces => rfl

theorem mem_of_mem_splitChars {p : Char → Bool} {cs piece : List Char} {c : Char}
    (member : piece ∈ splitChars p cs) (inPiece : c ∈ piece) : c ∈ cs ∧ p c = false := by
  induction cs generalizing piece with
  | nil =>
    obtain rfl : piece = [] := by simpa [splitChars] using member
    cases inPiece
  | cons d cs ih =>
    have later {other : List Char} (inRest : other ∈ splitChars p cs) (inOther : c ∈ other) :
        c ∈ d :: cs ∧ p c = false :=
      ⟨List.mem_cons_of_mem d (ih inRest inOther).1, (ih inRest inOther).2⟩
    rw [splitChars] at member
    split at member
    · rcases List.mem_cons.mp member with rfl | inRest
      · cases inPiece
      · exact later inRest inPiece
    · next keep =>
      split at member
      · next empty => exact absurd empty (splitChars_ne_nil p cs)
      · next first pieces same =>
        rw [same] at later
        rcases List.mem_cons.mp member with rfl | inRest
        · rcases List.mem_cons.mp inPiece with rfl | inFirst
          · exact ⟨List.mem_cons_self, by simpa using keep⟩
          · exact later List.mem_cons_self inFirst
        · exact later (List.mem_cons_of_mem _ inRest) inPiece

theorem exists_piece {p : Char → Bool} {cs : List Char} {c : Char} (member : c ∈ cs)
    (keep : p c = false) : ∃ piece ∈ splitChars p cs, c ∈ piece := by
  induction cs with
  | nil => cases member
  | cons d cs ih =>
    have later (inRest : c ∈ cs) : ∃ piece ∈ splitChars p (d :: cs), c ∈ piece := by
      obtain ⟨piece, inPieces, inPiece⟩ := ih inRest
      rw [splitChars]
      split
      · exact ⟨piece, List.mem_cons_of_mem _ inPieces, inPiece⟩
      · split
        · next empty => exact absurd empty (splitChars_ne_nil p cs)
        · next first pieces same =>
          rw [same] at inPieces
          rcases List.mem_cons.mp inPieces with rfl | inOthers
          · exact ⟨d :: piece, List.mem_cons_self, List.mem_cons_of_mem d inPiece⟩
          · exact ⟨piece, List.mem_cons_of_mem _ inOthers, inPiece⟩
    rcases List.mem_cons.mp member with rfl | inRest
    · rw [splitChars, if_neg (by simp [keep])]
      split
      · exact ⟨[c], List.mem_cons_self, List.mem_cons_self⟩
      · next first pieces _ => exact ⟨c :: first, List.mem_cons_self, List.mem_cons_self⟩
    · exact later inRest

theorem lines_of_unbroken {text : String} (unbroken : '\n' ∉ text.toList) :
    lines text = [text] := by
  unfold lines split
  rw [splitChars_of_forall (beq_eq_false_of_not_mem unbroken), List.map_singleton,
    String.ofList_toList]

theorem unbroken_of_mem_lines {text line : String} (member : line ∈ lines text) :
    '\n' ∉ line.toList := by
  obtain ⟨piece, inPieces, rfl⟩ := List.mem_map.mp member
  rw [String.toList_ofList]
  intro inPiece
  have notCut := (mem_of_mem_splitChars inPieces inPiece).2
  simp at notCut

theorem intercalate_cons (separator first : List Char) (others : List (List Char)) :
    List.intercalate separator (first :: others) =
      first ++ others.flatMap fun other => separator ++ other := by
  induction others generalizing first with
  | nil => simp
  | cons other others ih => rw [List.intercalate_cons_cons, ih]; simp

theorem lines_intercalate {texts : List String} (ne_nil : texts ≠ [])
    (unbroken : ∀ text ∈ texts, '\n' ∉ text.toList) : lines ("\n".intercalate texts) = texts := by
  have joined : (List.intercalate ['\n'] (texts.map String.toList)).splitOn '\n' =
      texts.map String.toList :=
    List.splitOn_intercalate '\n' (by simpa using unbroken) (by simpa using ne_nil)
  rw [List.splitOn_eq_splitOnP] at joined
  unfold lines split
  rw [splitChars_eq_splitOnP, String.toList_intercalate]
  exact (congrArg (List.map String.ofList) joined).trans (by simp [Function.comp_def])

theorem lines_append_break {text : String} (unbroken : '\n' ∉ text.toList) (rest : String) :
    lines (text ++ "\n" ++ rest) = text :: lines rest := by
  have spelled : (text ++ "\n" ++ rest).toList = text.toList ++ '\n' :: rest.toList := by simp
  unfold lines split
  rw [spelled, splitChars_append_cons (beq_eq_false_of_not_mem unbroken) rfl, List.map_cons,
    String.ofList_toList]

/-- Joined lines stand before those of any text that follows behind a line break. -/
theorem lines_intercalate_append {texts : List String} (ne_nil : texts ≠ [])
    (unbroken : ∀ text ∈ texts, '\n' ∉ text.toList) (rest : String) :
    lines ("\n".intercalate texts ++ "\n" ++ rest) = texts ++ lines rest := by
  induction texts with
  | nil => exact absurd rfl ne_nil
  | cons text texts ih =>
    have first := unbroken text List.mem_cons_self
    cases texts with
    | nil =>
      rw [String.intercalate_singleton, lines_append_break first]
      rfl
    | cons other texts =>
      have behind := ih (List.cons_ne_nil _ _) fun line member => unbroken line (.tail _ member)
      have cut : "\n".intercalate (text :: other :: texts) ++ "\n" ++ rest =
          text ++ "\n" ++ ("\n".intercalate (other :: texts) ++ "\n" ++ rest) := by
        simp only [String.intercalate_cons_cons, String.append_assoc]
      rw [cut, lines_append_break first, behind]
      rfl

theorem replaceChars_pattern {pattern : List Char} (ne_nil : pattern ≠ [])
    (image rest : List Char) :
    replaceChars pattern image (pattern ++ rest) = image ++ replaceChars pattern image rest := by
  obtain ⟨c, cs, split⟩ := List.exists_cons_of_ne_nil ne_nil
  have begins : pattern.isPrefixOf (c :: (cs ++ rest)) = true := by
    rw [List.isPrefixOf_iff_prefix, split]
    exact List.prefix_append (c :: cs) rest
  have longest : max 1 pattern.length = (c :: cs).length := by
    rw [split, List.length_cons]
    omega
  have behind : (c :: (cs ++ rest)).drop (max 1 pattern.length) = rest := by
    rw [longest, ← List.cons_append, List.drop_left]
  have nonempty : ¬pattern.isEmpty = true := by simpa using ne_nil
  have whole : pattern ++ rest = c :: (cs ++ rest) := by rw [split, List.cons_append]
  rw [whole, replaceChars, if_neg nonempty, if_pos begins, behind]

/-- The pattern may begin behind the text, but not within it. -/
theorem replaceChars_append {pattern text rest : List Char} (image : List Char)
    (apart : ∀ later, later ≠ [] → later <:+ text → ¬pattern <+: later ++ rest) :
    replaceChars pattern image (text ++ rest) = text ++ replaceChars pattern image rest := by
  induction text with
  | nil => rfl
  | cons c text ih =>
    have here : ¬pattern <+: c :: (text ++ rest) :=
      apart (c :: text) (List.cons_ne_nil c text) List.suffix_rfl
    have nonempty : ¬pattern.isEmpty = true := by
      intro empty
      rw [List.isEmpty_iff.mp empty] at here
      exact here List.nil_prefix
    have further := ih fun later ne_nil isSuffix =>
      apart later ne_nil (isSuffix.trans (List.suffix_cons c text))
    rw [List.cons_append, replaceChars, if_neg nonempty,
      if_neg (fun begins => here (List.isPrefixOf_iff_prefix.mp begins)), further, List.cons_append]

end ClientGem.Text
