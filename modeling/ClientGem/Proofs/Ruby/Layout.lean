import ClientGem.Proofs.Text.Split
import ClientGem.Ruby.Source

/-!
The layout of a program read line by line. Blank lines apart, the lines of the text are those that
the items write, in order and indented by the blocks around them.
-/

namespace ClientGem.Ruby

open Source

mutual

/-- The texts that are written as one line are one line. -/
def Item.Unbroken : Item → Prop
  | .line text => '\n' ∉ text.toList
  | .lines _ => True
  | .blank => True
  | .block _ body => Source.Unbroken body
  | .clause header body second handler =>
    '\n' ∉ header.toList ∧ Source.Unbroken body ∧ '\n' ∉ second.toList ∧ Source.Unbroken handler

def Source.Unbroken : List Item → Prop
  | [] => True
  | item :: rest => item.Unbroken ∧ Source.Unbroken rest

end

mutual

/-- The lines that an item writes at a depth, without those that only set others apart. -/
def Item.written (depth : Nat) : Item → List String
  | .line text => [indent depth text]
  | .lines texts => texts.flatMap fun text => (Text.lines text).map (indent depth)
  | .blank => []
  | .block header body =>
    (Text.lines header).map (indent depth) ++ Source.written (depth + 1) body ++ [indent depth "end"]
  | .clause header body second handler =>
    [indent depth header] ++ Source.written (depth + 1) body ++
      [indent depth second] ++ Source.written (depth + 1) handler ++ [indent depth "end"]

def Source.written (depth : Nat) : List Item → List String
  | [] => []
  | item :: rest => item.written depth ++ Source.written depth rest

end

theorem toList_indent {depth : Nat} {text : String} (nonempty : text ≠ "") :
    (indent depth text).toList = List.replicate (2 * depth) ' ' ++ text.toList := by
  rw [indent, if_neg (by simpa using nonempty), String.toList_append, String.toList_ofList]

namespace Source

def nonblank (lines : List String) : List String :=
  lines.filter (!·.isEmpty)

@[simp] theorem nonblank_append (first second : List String) :
    nonblank (first ++ second) = nonblank first ++ nonblank second :=
  List.filter_append ..

theorem nonblank_cons (line : String) (lines : List String) :
    nonblank (line :: lines) = nonblank [line] ++ nonblank lines :=
  nonblank_append [line] lines

theorem nonblank_reverse (lines : List String) :
    nonblank lines.reverse = (nonblank lines).reverse :=
  List.filter_reverse ..

theorem reverse_nonblank_singleton (line : String) :
    (nonblank [line]).reverse = nonblank [line] :=
  (nonblank_reverse [line]).symm

theorem nonblank_addBlank (done : List String) : nonblank (addBlank done) = nonblank done := by
  cases done with
  | nil => rfl
  | cons last done =>
    rw [addBlank]
    split
    · rfl
    · rw [nonblank_cons]
      rfl

theorem addBlank_of_visible {last : String} (visible : last ≠ "") (done : List String) :
    addBlank (last :: done) = "" :: last :: done := by
  rw [addBlank, if_neg (by simpa using visible)]

theorem dropBlanks_of_visible {last : String} (visible : last ≠ "") (done : List String) :
    dropBlanks (last :: done) = last :: done :=
  List.dropWhile_cons_of_neg (by simpa using visible)

theorem nonblank_dropBlanks (done : List String) : nonblank (dropBlanks done) = nonblank done := by
  induction done with
  | nil => rfl
  | cons last done ih =>
    by_cases empty : last.isEmpty = true
    · have dropped : dropBlanks (last :: done) = dropBlanks done := List.dropWhile_cons_of_pos empty
      rw [dropped, ih]
      simp [nonblank, empty]
    · have kept : dropBlanks (last :: done) = last :: done := List.dropWhile_cons_of_neg empty
      rw [kept]

theorem addItems_append (depth : Nat) (first second : Source) (done : List String) :
    addItems depth (first ++ second) done = addItems depth second (addItems depth first done) := by
  induction first generalizing done with
  | nil => rfl
  | cons item first ih => rw [List.cons_append, addItems, addItems, ih]

theorem addPieces_eq (depth : Nat) (text : String) (done : List String) :
    addPieces depth text done = ((Text.lines text).map (indent depth)).reverse ++ done := by
  rw [addPieces]
  induction Text.lines text generalizing done with
  | nil => rfl
  | cons piece pieces ih => simp [ih]

theorem foldl_addPieces (depth : Nat) (texts : List String) (done : List String) :
    texts.foldl (fun done text => addPieces depth text done) done =
      (texts.flatMap fun text => (Text.lines text).map (indent depth)).reverse ++ done := by
  induction texts generalizing done with
  | nil => rfl
  | cons text texts ih =>
    rw [List.foldl_cons, ih, addPieces_eq, List.flatMap_cons, List.reverse_append,
      List.append_assoc]

mutual

/-- An item puts what it writes on top of the lines before it, which stay as they are. -/
theorem nonblank_addItem (depth : Nat) (item : Item) (done : List String) :
    nonblank (addItem depth item done) =
      (nonblank (item.written depth)).reverse ++ nonblank done := by
  cases item with
  | line text =>
    rw [addItem, Item.written, nonblank_cons, reverse_nonblank_singleton]
  | lines texts =>
    rw [addItem, Item.written, foldl_addPieces, nonblank_append, nonblank_reverse]
  | blank =>
    rw [addItem, Item.written, nonblank_addBlank]
    rfl
  | block header body =>
    rw [addItem, nonblank_cons, nonblank_dropBlanks, nonblank_addItems (depth + 1) body,
      addPieces_eq, nonblank_append, nonblank_reverse]
    simp only [Item.written, nonblank_append, List.reverse_append, reverse_nonblank_singleton,
      List.append_assoc]
  | clause header body second handler =>
    rw [addItem, nonblank_cons, nonblank_dropBlanks, nonblank_addItems (depth + 1) handler,
      nonblank_cons _ (dropBlanks _), nonblank_dropBlanks, nonblank_addItems (depth + 1) body,
      nonblank_cons _ done]
    simp only [Item.written, nonblank_append, List.reverse_append, reverse_nonblank_singleton,
      List.append_assoc]

theorem nonblank_addItems (depth : Nat) (items : List Item) (done : List String) :
    nonblank (addItems depth items done) =
      (nonblank (Source.written depth items)).reverse ++ nonblank done := by
  cases items with
  | nil => rfl
  | cons item rest =>
    rw [addItems, nonblank_addItems depth rest, nonblank_addItem depth item, Source.written,
      nonblank_append, List.reverse_append, List.append_assoc]

end

def AllUnbroken (lines : List String) : Prop :=
  ∀ line ∈ lines, '\n' ∉ line.toList

theorem unbroken_indent (depth : Nat) {text : String} (unbroken : '\n' ∉ text.toList) :
    '\n' ∉ (indent depth text).toList := by
  unfold indent
  split
  · decide
  · rw [String.toList_append, List.mem_append, String.toList_ofList, not_or]
    exact ⟨fun member => absurd (List.eq_of_mem_replicate member) (by decide), unbroken⟩

theorem AllUnbroken.cons {lines : List String} (before : AllUnbroken lines) (depth : Nat)
    {text : String} (unbroken : '\n' ∉ text.toList) : AllUnbroken (indent depth text :: lines) := by
  intro line member
  rcases List.mem_cons.mp member with rfl | earlier
  · exact unbroken_indent depth unbroken
  · exact before line earlier

theorem AllUnbroken.addPieces {lines : List String} (before : AllUnbroken lines) (depth : Nat)
    (text : String) : AllUnbroken (addPieces depth text lines) := by
  rw [addPieces_eq]
  intro line member
  rcases List.mem_append.mp member with inText | earlier
  · obtain ⟨piece, inPieces, rfl⟩ := List.mem_map.mp (List.mem_reverse.mp inText)
    exact unbroken_indent depth (Text.unbroken_of_mem_lines inPieces)
  · exact before line earlier

theorem AllUnbroken.dropBlanks {lines : List String} (before : AllUnbroken lines) :
    AllUnbroken (dropBlanks lines) :=
  fun line member => before line ((List.dropWhile_sublist _).subset member)

theorem AllUnbroken.addBlank {lines : List String} (before : AllUnbroken lines) :
    AllUnbroken (addBlank lines) := by
  cases lines with
  | nil => exact before
  | cons last lines =>
    rw [Source.addBlank]
    split
    · exact before
    · intro line member
      rcases List.mem_cons.mp member with rfl | earlier
      · decide
      · exact before line earlier

theorem AllUnbroken.foldl_addPieces {lines : List String} (before : AllUnbroken lines)
    (depth : Nat) (texts : List String) :
    AllUnbroken (texts.foldl (fun done text => Source.addPieces depth text done) lines) := by
  induction texts generalizing lines with
  | nil => exact before
  | cons text texts ih => exact ih (before.addPieces depth text)

mutual

theorem AllUnbroken.addItem {lines : List String} (before : AllUnbroken lines) (depth : Nat)
    (item : Item) (unbroken : item.Unbroken) : AllUnbroken (addItem depth item lines) := by
  cases item with
  | line text =>
    rw [Source.addItem]
    exact before.cons depth unbroken
  | lines texts =>
    rw [Source.addItem]
    exact before.foldl_addPieces depth texts
  | blank =>
    rw [Source.addItem]
    exact before.addBlank
  | block header body =>
    rw [Source.addItem]
    have inside := (before.addPieces depth header).addItems (depth + 1) body unbroken
    exact inside.dropBlanks.cons depth (by decide)
  | clause header body second handler =>
    obtain ⟨first, inBody, between, inHandler⟩ := unbroken
    rw [Source.addItem]
    have inside := (before.cons depth first).addItems (depth + 1) body inBody
    have handled := (inside.dropBlanks.cons depth between).addItems (depth + 1) handler inHandler
    exact handled.dropBlanks.cons depth (by decide)

theorem AllUnbroken.addItems {lines : List String} (before : AllUnbroken lines) (depth : Nat)
    (items : List Item) (unbroken : Source.Unbroken items) :
    AllUnbroken (addItems depth items lines) := by
  cases items with
  | nil => exact before
  | cons item rest =>
    rw [Source.addItems]
    exact (before.addItem depth item unbroken.1).addItems depth rest unbroken.2

end

theorem allUnbroken_addItems {source : Source} (unbroken : Source.Unbroken source) :
    AllUnbroken (addItems 0 source []) :=
  AllUnbroken.addItems (fun _ member => absurd member List.not_mem_nil) 0 source unbroken

theorem AllUnbroken.reverse_dropBlanks {lines : List String} (unbroken : AllUnbroken lines) :
    AllUnbroken (Source.dropBlanks lines).reverse :=
  fun line member => unbroken.dropBlanks line (List.mem_reverse.mp member)

theorem lines_finish {done : List String} (unbroken : AllUnbroken done) :
    nonblank (Text.lines (finish done)) = (nonblank done).reverse := by
  have reversed := unbroken.reverse_dropBlanks
  by_cases empty : (dropBlanks done).reverse = []
  · have none : nonblank done = [] := by
      rw [← nonblank_dropBlanks, List.reverse_eq_nil_iff.mp empty]
      rfl
    unfold finish
    rw [empty, none]
    decide
  · have joined : finish done = "\n".intercalate ((dropBlanks done).reverse ++ [""]) := by
      unfold finish
      rw [String.intercalate_append_of_ne_nil empty (List.cons_ne_nil _ _),
        String.intercalate_singleton, String.append_empty]
    have ended : ∀ line ∈ (dropBlanks done).reverse ++ [""], '\n' ∉ line.toList := by
      intro line member
      rcases List.mem_append.mp member with earlier | last
      · exact reversed line earlier
      · rw [List.mem_singleton.mp last]
        decide
    rw [joined, Text.lines_intercalate (by simp) ended, nonblank_append, nonblank_reverse,
      nonblank_dropBlanks]
    exact List.append_nil _

/-- Blank lines apart, the lines of a layout are those its items write. -/
theorem nonblank_lines_layout {source : Source} (unbroken : Source.Unbroken source) :
    nonblank (Text.lines source.layout) = nonblank (written 0 source) := by
  unfold layout
  rw [lines_finish (allUnbroken_addItems unbroken), nonblank_addItems]
  simp [nonblank]

theorem written_append (depth : Nat) (first second : Source) :
    written depth (first ++ second) = written depth first ++ written depth second := by
  induction first with
  | nil => rfl
  | cons item first ih =>
    rw [List.cons_append, written, written, ih, List.append_assoc]

theorem unbroken_append {first second : Source} :
    Unbroken (first ++ second) ↔ Unbroken first ∧ Unbroken second := by
  induction first with
  | nil => simp [Unbroken]
  | cons item first ih => simp [Unbroken, ih, and_assoc]

/-- What is read off the nonblank lines can be read off all lines. -/
theorem filterMap_nonblank {α : Type} {f : String → Option α} (skips : f "" = none)
    (lines : List String) : (nonblank lines).filterMap f = lines.filterMap f := by
  induction lines with
  | nil => rfl
  | cons line lines ih =>
    rw [nonblank_cons, List.filterMap_append, ih, List.filterMap_cons]
    by_cases empty : line = ""
    · simp [nonblank, empty, skips]
    · cases found : f line <;> simp [nonblank, empty, found]

end Source

/-- The text that lines are joined to, each with its line break. -/
def laid (lines : List String) : List Char :=
  lines.flatMap fun line => line.toList ++ ['\n']

@[simp] theorem laid_append (first second : List String) :
    laid (first ++ second) = laid first ++ laid second :=
  List.flatMap_append

@[simp] theorem laid_cons (line : String) (lines : List String) :
    laid (line :: lines) = line.toList ++ '\n' :: laid lines := by
  simp [laid]

@[simp] theorem laid_nil : laid [] = [] :=
  rfl

theorem intercalate_append_break {lines : List String} (ne_nil : lines ≠ []) :
    ("\n".intercalate lines ++ "\n").toList = laid lines := by
  induction lines with
  | nil => exact absurd rfl ne_nil
  | cons line lines ih =>
    cases lines with
    | nil => simp
    | cons other lines =>
      have behind := ih (List.cons_ne_nil other lines)
      rw [laid_cons, ← behind, String.intercalate_cons_cons]
      simp

/-- What is laid is the lines that are left when blank lines are dropped from the end. -/
theorem toList_finish (done : List String) : (finish done).toList =
    if dropBlanks done = [] then ['\n'] else laid (dropBlanks done).reverse := by
  unfold finish
  split
  · next empty => simp [empty]
  · next full => exact intercalate_append_break (by simpa using full)

/-- The text of a layout is made of the lines that its items write, and of blank lines. -/
theorem toList_layout (source : Source) : ∃ lines, source.layout.toList = laid lines ∧
    nonblank lines = nonblank (written 0 source) := by
  have written : nonblank (dropBlanks (addItems 0 source [])).reverse =
      nonblank (written 0 source) := by
    rw [nonblank_reverse, nonblank_dropBlanks, nonblank_addItems]
    simp [nonblank]
  unfold layout
  rw [toList_finish]
  split
  · next empty =>
    rw [empty] at written
    exact ⟨[""], by simp, written⟩
  · exact ⟨_, rfl, written⟩

theorem lines_laid {lines : List String} (unbroken : ∀ line ∈ lines, '\n' ∉ line.toList)
    (rest : List Char) :
    Text.lines (String.ofList (laid lines ++ rest)) = lines ++ Text.lines (String.ofList rest) := by
  induction lines with
  | nil => rfl
  | cons line lines ih =>
    have spelled : String.ofList (laid (line :: lines) ++ rest) =
        line ++ "\n" ++ String.ofList (laid lines ++ rest) := by
      apply String.toList_inj.mp
      simp
    rw [spelled, Text.lines_append_break (unbroken line List.mem_cons_self),
      ih fun other member => unbroken other (.tail _ member)]
    rfl

theorem lines_ofList_laid {lines : List String} (unbroken : ∀ line ∈ lines, '\n' ∉ line.toList) :
    Text.lines (String.ofList (laid lines)) = lines ++ [""] := by
  have read := lines_laid unbroken []
  rwa [List.append_nil] at read

def AllBlank (lines : List String) : Prop :=
  ∀ line ∈ lines, line = ""

theorem nonblank_of_allBlank {lines : List String} (blank : AllBlank lines) : nonblank lines = [] :=
  List.filter_eq_nil_iff.mpr fun line member => by simp [blank line member]

theorem nonblank_eq_append {lines first second : List String}
    (same : nonblank lines = first ++ second) : ∃ start rest, lines = start ++ rest ∧
      nonblank start = first ∧ nonblank rest = second :=
  List.filter_eq_append_iff.mp same

theorem nonblank_eq_cons {lines others : List String} {line : String}
    (same : nonblank lines = line :: others) : ∃ blanks rest, lines = blanks ++ line :: rest ∧
      AllBlank blanks ∧ nonblank rest = others := by
  obtain ⟨blanks, rest, spelled, blank, -, sameRest⟩ := List.filter_eq_cons_iff.mp same
  exact ⟨blanks, rest, spelled, fun line member => by simpa using blank line member, sameRest⟩

/-- A part of a layout, from its first line to the one that ends it. What stands before is what the
items before it write, and so is what stands between. -/
theorem layout_part {source : Source} {before inside behind : List String} {first last : String}
    (split : written 0 source = before ++ (first :: (inside ++ (last :: behind))))
    (firstVisible : first ≠ "") (lastVisible : last ≠ "") (lastUnbroken : '\n' ∉ last.toList)
    (unbroken : ∀ line ∈ inside, '\n' ∉ line.toList) (noEnd : last ∉ inside) :
    ∃ lines rest, source.layout = String.ofList (laid lines) ++ (first ++ "\n") ++ rest ∧
      nonblank lines = nonblank before ∧
      nonblank ((Text.lines rest).takeWhile (· != last)) = nonblank inside := by
  have kept {line : String} (visible : line ≠ "") (lines : List String) :
      nonblank (line :: lines) = line :: nonblank lines :=
    List.filter_cons_of_pos (by simpa using visible)
  obtain ⟨all, text, same⟩ := toList_layout source
  rw [split, nonblank_append, kept firstVisible, nonblank_append, kept lastVisible] at same
  obtain ⟨start, more, spelledAll, sameStart, sameMore⟩ := nonblank_eq_append same
  obtain ⟨above, rest, spelledMore, blankAbove, sameRest⟩ := nonblank_eq_cons sameMore
  obtain ⟨middle, final, spelledRest, sameMiddle, sameFinal⟩ := nonblank_eq_append sameRest
  obtain ⟨below, others, spelledFinal, blankBelow, -⟩ := nonblank_eq_cons sameFinal
  have written {line : String} (member : line ∈ middle ++ below) : line = "" ∨ line ∈ inside := by
    rcases List.mem_append.mp member with inMiddle | inBelow
    · by_cases blank : line = ""
      · exact .inl blank
      · have visible : line ∈ nonblank middle :=
          List.mem_filter.mpr ⟨inMiddle, by simpa using blank⟩
        rw [sameMiddle] at visible
        exact .inr (List.mem_filter.mp visible).1
    · exact .inl (blankBelow line inBelow)
  have unbrokenPart : ∀ line ∈ middle ++ below ++ [last], '\n' ∉ line.toList := by
    intro line member
    rcases List.mem_append.mp member with inPart | isLast
    · rcases written inPart with blank | inInside
      · rw [blank]
        decide
      · exact unbroken line inInside
    · rw [List.mem_singleton.mp isLast]
      exact lastUnbroken
  have noLast : ∀ line ∈ middle ++ below, (line != last) = true := by
    intro line member
    rw [bne_iff_ne]
    intro isLast
    rcases written member with blank | inInside
    · exact lastVisible (isLast.symm.trans blank)
    · exact noEnd (isLast ▸ inInside)
  refine ⟨start ++ above, String.ofList (laid (middle ++ below ++ [last]) ++ laid others),
    ?_, ?_, ?_⟩
  · apply String.toList_inj.mp
    rw [text, spelledAll, spelledMore, spelledRest, spelledFinal]
    simp
  · rw [nonblank_append, sameStart, nonblank_of_allBlank blankAbove, List.append_nil]
  · rw [lines_laid unbrokenPart, List.append_assoc, List.takeWhile_append_of_pos noLast,
      List.singleton_append, List.takeWhile_cons_of_neg (by simp), List.append_nil, nonblank_append,
      sameMiddle, nonblank_of_allBlank blankBelow, List.append_nil]

end ClientGem.Ruby
