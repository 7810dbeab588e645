import ClientGem.Proofs.Ruby.Layout

/-!
A program laid out inside of a block. It reads there as it reads alone, two spaces further in, so a
part of a file can be laid out without what stands around it.
-/

namespace ClientGem.Ruby

open Source

def Item.Writes : Item → Prop
  | .line _ => True
  | .lines texts => texts ≠ []
  | .blank => False
  | .block _ _ => True
  | .clause _ _ _ _ => True

namespace Source

/-- A program that shows something, and lays a line before it lays anything else. -/
structure SelfContained (source : Source) : Prop where
  starts : ∃ first rest, source = first :: rest ∧ first.Writes
  unbroken : Unbroken source
  shows : ∃ line ∈ written 0 source, line ≠ ""

def nest : List String → Source → Source
  | [], source => source
  | header :: headers, source => [.block header (nest headers source)]

/-- Every line of a text with two spaces before it, but for those that are empty. -/
def shifted (text : String) : String :=
  "\n".intercalate ((Text.lines text).map fun line => if line = "" then "" else "  " ++ line)

def wrapped : List String → String → String
  | [], text => text
  | header :: headers, text => header ++ "\n" ++ shifted (wrapped headers text) ++ "end\n"

section Indent

variable {depth : Nat} {text : String}

theorem indent_one : indent 1 text = if text = "" then "" else "  " ++ text := by
  rw [indent]
  simp only [String.isEmpty_iff]
  rfl

theorem indent_eq_empty : indent depth text = "" ↔ text = "" := by
  by_cases empty : text = ""
  · subst empty
    exact iff_of_true rfl rfl
  · refine iff_of_false (fun none => empty ?_) empty
    have chars := congrArg String.toList none
    rw [toList_indent empty] at chars
    simpa using (List.append_eq_nil_iff.mp chars).2

theorem indent_isEmpty : (indent depth text).isEmpty = text.isEmpty := by
  rw [Bool.eq_iff_iff, String.isEmpty_iff, String.isEmpty_iff, indent_eq_empty]

theorem indent_succ : indent (depth + 1) text = indent 1 (indent depth text) := by
  by_cases empty : text = ""
  · subst empty
    rfl
  · apply String.toList_inj.mp
    rw [toList_indent empty, toList_indent (mt indent_eq_empty.mp empty), toList_indent empty,
      ← List.append_assoc, List.replicate_append_replicate, Nat.mul_succ, Nat.add_comm]

end Indent

def beneath (around alone : List String) : List String :=
  alone.map (indent 1) ++ around

section Beneath

variable {depth : Nat} {around alone : List String}

theorem cons_beneath (text : String) :
    indent (depth + 1) text :: beneath around alone =
      beneath around (indent depth text :: alone) := by
  rw [indent_succ]
  rfl

theorem addPieces_beneath (text : String) :
    addPieces (depth + 1) text (beneath around alone) =
      beneath around (addPieces depth text alone) := by
  unfold addPieces
  induction Text.lines text generalizing alone with
  | nil => rfl
  | cons piece pieces ih => rw [List.foldl_cons, cons_beneath, ih, List.foldl_cons]

theorem foldl_addPieces_beneath (texts : List String) :
    texts.foldl (fun done text => addPieces (depth + 1) text done) (beneath around alone) =
      beneath around (texts.foldl (fun done text => addPieces depth text done) alone) := by
  induction texts generalizing alone with
  | nil => rfl
  | cons text texts ih => rw [List.foldl_cons, addPieces_beneath, ih, List.foldl_cons]

theorem addBlank_beneath (full : alone ≠ []) :
    addBlank (beneath around alone) = beneath around (addBlank alone) := by
  cases alone with
  | nil => exact absurd rfl full
  | cons last alone =>
    rw [addBlank, beneath, List.map_cons, List.cons_append, addBlank, indent_isEmpty]
    split <;> rfl

theorem dropBlanks_beneath (visible : ∀ line, around.head? = some line → line ≠ "") :
    dropBlanks (beneath around alone) = beneath around (dropBlanks alone) := by
  induction alone with
  | nil =>
    cases around with
    | nil => rfl
    | cons line around => exact List.dropWhile_cons_of_neg (by simpa using visible)
  | cons last alone ih =>
    have ends : dropBlanks (beneath around (last :: alone)) =
        if last.isEmpty then dropBlanks (beneath around alone)
        else beneath around (last :: alone) := by
      rw [← indent_isEmpty]
      exact List.dropWhile_cons
    rw [ends, ih]
    unfold dropBlanks
    rw [List.dropWhile_cons]
    split <;> rfl

theorem addPieces_ne_nil (text : String) : addPieces depth text alone ≠ [] := by
  rw [addPieces_eq]
  simp [Text.lines, Text.split, Text.splitChars_ne_nil]

theorem addItem_ne_nil {item : Item} (full : alone ≠ [] ∨ item.Writes) :
    addItem depth item alone ≠ [] := by
  cases item with
  | line text => simp [addItem]
  | lines texts =>
    rw [addItem]
    cases texts with
    | nil => simpa [Item.Writes] using full
    | cons text texts =>
      rw [List.foldl_cons, foldl_addPieces]
      exact List.append_ne_nil_of_right_ne_nil _ (addPieces_ne_nil text)
  | blank =>
    rw [addItem]
    cases alone with
    | nil => simp [Item.Writes] at full
    | cons last alone =>
      unfold addBlank
      dsimp only
      split <;> exact List.cons_ne_nil _ _
  | block header body => simp [addItem]
  | clause header body second handler => simp [addItem]

end Beneath

mutual

/-- An item is laid on lines beneath others as it is laid on these lines alone. -/
theorem addItem_beneath {around alone : List String}
    (visible : ∀ line, around.head? = some line → line ≠ "") (depth : Nat) (item : Item)
    (full : alone ≠ [] ∨ item.Writes) :
    addItem (depth + 1) item (beneath around alone) =
      beneath around (addItem depth item alone) := by
  cases item with
  | line text => rw [addItem, cons_beneath, addItem]
  | lines texts => rw [addItem, foldl_addPieces_beneath, addItem]
  | blank => rw [addItem, addBlank_beneath (full.resolve_right id), addItem]
  | block header body =>
    rw [addItem, addPieces_beneath,
      addItems_beneath visible (depth + 1) body (addPieces_ne_nil header),
      dropBlanks_beneath visible, cons_beneath, addItem]
  | clause header body second handler =>
    rw [addItem, cons_beneath,
      addItems_beneath visible (depth + 1) body (List.cons_ne_nil _ _),
      dropBlanks_beneath visible, cons_beneath,
      addItems_beneath visible (depth + 1) handler (List.cons_ne_nil _ _),
      dropBlanks_beneath visible, cons_beneath, addItem]

theorem addItems_beneath {around alone : List String}
    (visible : ∀ line, around.head? = some line → line ≠ "") (depth : Nat) (items : List Item)
    (full : alone ≠ []) :
    addItems (depth + 1) items (beneath around alone) =
      beneath around (addItems depth items alone) := by
  cases items with
  | nil => rfl
  | cons item rest =>
    rw [addItems, addItem_beneath visible depth item (.inl full),
      addItems_beneath visible depth rest (addItem_ne_nil (.inl full)), addItems]

end

theorem toList_shifted {lines : List String} (unbroken : AllUnbroken lines) :
    (shifted (String.ofList (laid lines))).toList = laid (lines.map (indent 1)) := by
  have steps : (fun line : String => if line = "" then "" else "  " ++ line) = indent 1 := by
    funext line
    exact indent_one.symm
  rw [shifted, lines_ofList_laid unbroken, steps, List.map_append]
  cases lines with
  | nil => rfl
  | cons line lines =>
    have joined := intercalate_append_break (List.cons_ne_nil (indent 1 line)
      (lines.map (indent 1)))
    rw [← List.map_cons] at joined
    rw [← joined, String.intercalate_append_of_ne_nil (by simp) (by simp), List.map_singleton,
      String.intercalate_singleton]
    simp [indent]

theorem header_on_top {header : String} (visible : header ≠ "") :
    ∀ line, [header].head? = some line → line ≠ "" := by
  rintro _ ⟨⟩
  exact visible

namespace SelfContained

variable {header : String} {source : Source} (contained : SelfContained source)
include contained

theorem dropBlanks_ne_nil : dropBlanks (addItems 0 source []) ≠ [] := by
  intro empty
  obtain ⟨line, member, visible⟩ := contained.shows
  have shown : line ∈ nonblank (written 0 source) :=
    List.mem_filter.mpr ⟨member, by simpa using visible⟩
  have every := nonblank_addItems 0 source []
  rw [← nonblank_dropBlanks, empty] at every
  have none : nonblank (written 0 source) = [] := by simpa [nonblank] using every.symm
  rw [none] at shown
  cases shown

theorem layout_eq :
    layout source = String.ofList (laid (dropBlanks (addItems 0 source [])).reverse) := by
  apply String.toList_inj.mp
  rw [layout, toList_finish, if_neg contained.dropBlanks_ne_nil, String.toList_ofList]

theorem toList_shifted_layout : (shifted (layout source)).toList =
    laid ((dropBlanks (addItems 0 source [])).reverse.map (indent 1)) := by
  rw [contained.layout_eq]
  exact toList_shifted (allUnbroken_addItems contained.unbroken).reverse_dropBlanks

/-- What is laid under a header is what is laid alone. -/
theorem addItems_under (visible : header ≠ "") :
    addItems 1 source [header] = beneath [header] (addItems 0 source []) := by
  obtain ⟨first, rest, rfl, writes⟩ := contained.starts
  have top := header_on_top visible
  have under : addItem 1 first (beneath [header] []) = beneath [header] (addItem 0 first []) :=
    addItem_beneath top 0 first (.inr writes)
  have under : addItem 1 first [header] = beneath [header] (addItem 0 first []) := under
  rw [addItems, under, addItems_beneath top 0 rest (addItem_ne_nil (.inr writes)), addItems]

theorem addItems_block (visible : header ≠ "") (unbroken : '\n' ∉ header.toList) :
    addItems 0 [.block header source] [] =
      "end" :: beneath [header] (dropBlanks (addItems 0 source [])) := by
  have alone : indent 0 header = header := by
    apply String.toList_inj.mp
    rw [toList_indent visible]
    rfl
  have laid_header : addPieces 0 header [] = [header] := by
    rw [addPieces_eq, Text.lines_of_unbroken unbroken, List.map_singleton, alone]
    rfl
  rw [addItems, addItems, addItem, laid_header, contained.addItems_under visible,
    dropBlanks_beneath (header_on_top visible)]
  rfl

/-- Inside of a block, a program is laid out as it is alone. -/
theorem layout_block (visible : header ≠ "") (unbroken : '\n' ∉ header.toList) :
    layout [.block header source] = header ++ "\n" ++ shifted (layout source) ++ "end\n" := by
  have ended (lines : List String) : dropBlanks ("end" :: lines) = "end" :: lines :=
    List.dropWhile_cons_of_neg (by decide)
  apply String.toList_inj.mp
  rw [layout, toList_finish, contained.addItems_block visible unbroken, ended,
    if_neg (List.cons_ne_nil _ _), String.toList_append, String.toList_append,
    contained.toList_shifted_layout]
  simp [beneath]

theorem block (header : String) : SelfContained [.block header source] where
  starts := ⟨_, [], rfl, trivial⟩
  unbroken := ⟨contained.unbroken, trivial⟩
  shows := ⟨"end", by simp [written, Item.written, indent], by decide⟩

theorem nest (headers : List String) : SelfContained (Source.nest headers source) := by
  induction headers with
  | nil => exact contained
  | cons header headers ih => exact ih.block header

end SelfContained

/-- A program inside of any blocks is laid out as it is alone, between their headers and ends. -/
theorem layout_nest {source : Source} (contained : SelfContained source) (headers : List String)
    (plain : ∀ header ∈ headers, header ≠ "" ∧ '\n' ∉ header.toList) :
    layout (nest headers source) = wrapped headers (layout source) := by
  induction headers with
  | nil => rfl
  | cons header headers ih =>
    obtain ⟨⟨visible, unbroken⟩, inner⟩ := List.forall_mem_cons.mp plain
    have inside := contained.nest headers
    rw [nest, inside.layout_block visible unbroken, ih inner, wrapped]

def reader : Source :=
  [.lines ["# Reads\n", "# writes"], .blank, .block "def find" [.blank, .line "1", .blank],
    .clause "if base" [.line ""] "else" [.blank, .line "2"], .blank]

theorem layout_nest_reader : SelfContained reader ∧
    (∀ header ∈ ["module Api", "class Client"], header ≠ "" ∧ '\n' ∉ header.toList) ∧
    layout (nest ["module Api", "class Client"] reader) =
      wrapped ["module Api", "class Client"] (layout reader) := by
  have contained : SelfContained reader := by
    refine ⟨⟨_, _, rfl, List.cons_ne_nil _ _⟩, ?_, "# writes", by decide, by decide⟩
    simp only [reader, Unbroken, Item.Unbroken]
    decide
  have plain : ∀ header ∈ ["module Api", "class Client"],
      header ≠ "" ∧ '\n' ∉ header.toList := by decide
  exact ⟨contained, plain, layout_nest contained _ plain⟩

end Source

end ClientGem.Ruby
