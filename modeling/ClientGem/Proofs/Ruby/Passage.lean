import ClientGem.Proofs.Ruby.Layout

/-!
Passages of a text: lines that stand in it one after another. What an item lays is a passage of
every layout that the item is a part of, since what is laid before is never taken back, but for
blank lines at its end.
-/

namespace ClientGem.Ruby

open Source

/-- The lines stand in a text as they are, each with its line break. -/
def HasLines (text : String) (lines : List String) : Prop :=
  ∃ before after, text.toList = laid before ++ laid lines ++ after

theorem HasLines.of_infix {text : String} {part whole : List String} (inside : part <:+: whole)
    (has : HasLines text whole) : HasLines text part := by
  obtain ⟨front, back, rfl⟩ := inside
  obtain ⟨before, after, spelled⟩ := has
  refine ⟨before ++ front, laid back ++ after, ?_⟩
  rw [spelled]
  simp

theorem exists_around_section {sections : List String} {part : String} (member : part ∈ sections) :
    ∃ before after, ("\n\n".intercalate sections ++ "\n").toList =
      laid before ++ (part ++ "\n").toList ++ after := by
  induction sections with
  | nil => cases member
  | cons first sections ih =>
    cases sections with
    | nil =>
      obtain rfl := List.mem_singleton.mp member
      exact ⟨[], [], by simp⟩
    | cons second sections =>
      have spelled : ("\n\n".intercalate (first :: second :: sections) ++ "\n").toList =
          laid [first, ""] ++ ("\n\n".intercalate (second :: sections) ++ "\n").toList := by
        rw [String.intercalate_cons_cons]
        simp
      rcases List.mem_cons.mp member with rfl | later
      · exact ⟨[], '\n' :: ("\n\n".intercalate (second :: sections) ++ "\n").toList, by
          rw [spelled]
          simp⟩
      · obtain ⟨before, after, rest⟩ := ih later
        refine ⟨first :: "" :: before, after, ?_⟩
        rw [spelled, rest]
        simp

theorem HasLines.of_section {sections : List String} {part : String} {lines : List String}
    (member : part ∈ sections) (has : HasLines (part ++ "\n") lines) :
    HasLines ("\n\n".intercalate sections ++ "\n") lines := by
  obtain ⟨before, after, whole⟩ := exists_around_section member
  obtain ⟨above, below, spelled⟩ := has
  refine ⟨before ++ above, below ++ after, ?_⟩
  rw [whole, spelled]
  simp

theorem hasLines_joined {lines : List String} (ne_nil : lines ≠ []) :
    HasLines ("\n".intercalate lines ++ "\n") lines :=
  ⟨[], [], by rw [intercalate_append_break ne_nil]; simp⟩

namespace Source

/-- On lines that end with a visible one, nothing is taken back. -/
def Lasts (kept : List String) : Prop :=
  ∀ line, kept.head? = some line → line ≠ ""

theorem isSuffix_addBlank {kept done : List String} (isSuffix : kept <:+ done) :
    kept <:+ addBlank done := by
  unfold addBlank
  split
  · exact isSuffix
  · split
    · exact isSuffix
    · exact isSuffix.trans (List.suffix_cons _ _)

theorem isSuffix_dropBlanks {kept done : List String} (lasts : Lasts kept)
    (isSuffix : kept <:+ done) : kept <:+ dropBlanks done := by
  obtain ⟨above, rfl⟩ := isSuffix
  induction above with
  | nil =>
    cases kept with
    | nil => exact List.nil_suffix
    | cons line kept =>
      have same : dropBlanks (line :: kept) = line :: kept :=
        dropBlanks_of_visible (lasts line rfl) kept
      exact ⟨[], same.symm⟩
  | cons line above ih =>
    by_cases blank : line = ""
    · have dropped : dropBlanks (line :: (above ++ kept)) = dropBlanks (above ++ kept) :=
        List.dropWhile_cons_of_pos (by simpa using blank)
      rw [List.cons_append, dropped]
      exact ih
    · rw [List.cons_append, dropBlanks_of_visible blank]
      exact List.suffix_append (line :: above) kept

mutual

/-- Whatever is laid, what has been laid before stays below it. -/
theorem isSuffix_addItem {kept done : List String} (lasts : Lasts kept)
    (isSuffix : kept <:+ done) (depth : Nat) (item : Item) : kept <:+ addItem depth item done := by
  cases item with
  | line text => exact isSuffix.trans (List.suffix_cons _ _)
  | lines texts =>
    rw [addItem, foldl_addPieces]
    exact isSuffix.trans (List.suffix_append _ _)
  | blank => exact isSuffix_addBlank isSuffix
  | block header body =>
    have opened : kept <:+ addPieces depth header done := by
      rw [addPieces_eq]
      exact isSuffix.trans (List.suffix_append _ _)
    have inside := isSuffix_addItems lasts opened (depth + 1) body
    exact (isSuffix_dropBlanks lasts inside).trans (List.suffix_cons _ _)
  | clause header body second handler =>
    have opened : kept <:+ indent depth header :: done := isSuffix.trans (List.suffix_cons _ _)
    have inside := isSuffix_dropBlanks lasts (isSuffix_addItems lasts opened (depth + 1) body)
    have between := inside.trans (List.suffix_cons (indent depth second) _)
    have handled := isSuffix_addItems lasts between (depth + 1) handler
    exact (isSuffix_dropBlanks lasts handled).trans (List.suffix_cons _ _)

theorem isSuffix_addItems {kept done : List String} (lasts : Lasts kept)
    (isSuffix : kept <:+ done) (depth : Nat) (items : List Item) :
    kept <:+ addItems depth items done := by
  cases items with
  | nil => exact isSuffix
  | cons item rest =>
    exact isSuffix_addItems lasts (isSuffix_addItem lasts isSuffix depth item) depth rest

end

theorem addItems_map_line (depth : Nat) (texts : List String) (done : List String) :
    addItems depth (texts.map .line) done = (texts.map (indent depth)).reverse ++ done := by
  induction texts generalizing done with
  | nil => rfl
  | cons text texts ih =>
    rw [List.map_cons, addItems, addItem, ih]
    simp

/-- Wherever an item is laid, the lines are laid one after another. -/
def Shows (depth : Nat) (items : Source) (lines : List String) : Prop :=
  ∀ done, ∃ above, lines.reverse ++ above <:+ addItems depth items done

section Shows

variable {depth : Nat} {lines : List String}

def Visible (lines : List String) : Prop :=
  ∃ last, lines.getLast? = some last ∧ last ≠ ""

theorem Visible.lasts (visible : Visible lines) (above : List String) :
    Lasts (lines.reverse ++ above) := by
  obtain ⟨last, isLast, shown⟩ := visible
  intro line isHead
  rw [List.head?_append, List.head?_reverse, isLast] at isHead
  obtain rfl : last = line := by simpa using isHead
  exact shown

theorem Shows.of_mem {items : Source} {item : Item} (visible : Visible lines)
    (shows : Shows depth [item] lines) (member : item ∈ items) : Shows depth items lines := by
  obtain ⟨before, after, rfl⟩ := List.append_of_mem member
  intro done
  obtain ⟨above, laid⟩ := shows (addItems depth before done)
  refine ⟨above, ?_⟩
  rw [addItems_append, ← List.singleton_append, addItems_append]
  exact isSuffix_addItems (visible.lasts above) laid depth after

theorem Shows.block {body : Source} (visible : Visible lines) (shows : Shows (depth + 1) body lines)
    (header : String) : Shows depth [.block header body] lines := by
  intro done
  obtain ⟨above, laid⟩ := shows (addPieces depth header done)
  exact ⟨above, (isSuffix_dropBlanks (visible.lasts above) laid).trans (List.suffix_cons _ _)⟩

theorem shows_block {header : String} {first rest : Source} (visible : Visible lines)
    (laid : ∀ done, addItems (depth + 1) first (addPieces depth header done) =
      lines.reverse ++ done) : Shows depth [.block header (first ++ rest)] lines := by
  intro done
  have begun : lines.reverse ++ done <:+
      addItems (depth + 1) (first ++ rest) (addPieces depth header done) := by
    rw [addItems_append, laid]
    exact isSuffix_addItems (visible.lasts done) List.suffix_rfl _ _
  exact ⟨done, (isSuffix_dropBlanks (visible.lasts done) begun).trans (List.suffix_cons _ _)⟩

/-- What a program shows is a passage of its layout. -/
theorem hasLines_layout {source : Source} (visible : Visible lines) (shows : Shows 0 source lines) :
    HasLines source.layout lines := by
  obtain ⟨above, isSuffix⟩ := shows []
  obtain ⟨below, spelled⟩ := isSuffix_dropBlanks (visible.lasts above) isSuffix
  have ne_nil : dropBlanks (addItems 0 source []) ≠ [] := by
    rw [← spelled]
    obtain ⟨last, isLast, -⟩ := visible
    have : lines ≠ [] := by
      rintro rfl
      cases isLast
    simp [this]
  refine ⟨above.reverse, laid below.reverse, ?_⟩
  rw [layout, toList_finish, if_neg ne_nil, ← spelled]
  simp

end Shows

end Source

end ClientGem.Ruby
