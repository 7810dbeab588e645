import ClientGem.Proofs.Ruby.Layout
import ClientGem.Ruby.Name

/-!
Texts of several lines that are laid line by line. They come out as one line would whose later lines
hang under the first, so that a string literal with line breaks gets blanks behind each of them.
-/

namespace ClientGem.Ruby

open Source

/-- Lines laid so far, the last first, that make the same text: where on one side there are several
lines, there is one on the other that they are joined to. -/
inductive SameText : List String → List String → Prop
  | nil : SameText [] []
  | line (text : String) {done done' : List String} (before : SameText done done') :
    SameText (text :: done) (text :: done')
  | joined {last : String} (earlier : List String) (visible : last ≠ "") {done done' : List String}
    (before : SameText done done') :
    SameText (last :: earlier ++ done) ("\n".intercalate (last :: earlier).reverse :: done')

theorem intercalate_ne_empty {last : String} (earlier : List String) (visible : last ≠ "") :
    "\n".intercalate (last :: earlier).reverse ≠ "" := by
  intro empty
  have text := intercalate_append_break
    (List.reverse_ne_nil_iff.mpr (List.cons_ne_nil last earlier))
  rw [empty] at text
  have length := congrArg List.length text
  have nonempty : 0 < last.toList.length := by
    rw [List.length_pos_iff]
    simpa using visible
  simp at length
  omega

theorem SameText.addBlank {done done' : List String} (same : SameText done done') :
    SameText (addBlank done) (addBlank done') := by
  cases same with
  | nil => exact .nil
  | @line text done done' before =>
    by_cases blank : text = ""
    · rw [blank]
      exact .line "" before
    · rw [addBlank_of_visible blank, addBlank_of_visible blank]
      exact .line "" (.line text before)
  | joined earlier visible before =>
    rw [List.cons_append, addBlank_of_visible visible,
      addBlank_of_visible (intercalate_ne_empty earlier visible)]
    exact .line "" (.joined earlier visible before)

theorem SameText.dropBlanks {done done' : List String} (same : SameText done done') :
    SameText (dropBlanks done) (dropBlanks done') := by
  induction same with
  | nil => exact .nil
  | @line text done done' before ih =>
    by_cases blank : text = ""
    · rw [blank]
      exact ih
    · rw [dropBlanks_of_visible blank, dropBlanks_of_visible blank]
      exact .line text before
  | joined earlier visible before =>
    rw [List.cons_append, dropBlanks_of_visible visible,
      dropBlanks_of_visible (intercalate_ne_empty earlier visible)]
    exact .joined earlier visible before

theorem SameText.append_left {done done' : List String} (same : SameText done done')
    (lines : List String) : SameText (lines ++ done) (lines ++ done') := by
  induction lines with
  | nil => exact same
  | cons line lines ih => exact .line line ih

theorem SameText.laid_eq {done done' : List String} (same : SameText done done') :
    laid done.reverse = laid done'.reverse := by
  induction same with
  | nil => rfl
  | line text before ih => simp [ih]
  | @joined last earlier visible done done' before ih =>
    have text := intercalate_append_break
      (List.reverse_ne_nil_iff.mpr (List.cons_ne_nil last earlier))
    rw [List.reverse_append, laid_append, ← text, ih]
    simp

theorem SameText.eq_nil_iff {done done' : List String} (same : SameText done done') :
    done = [] ↔ done' = [] := by
  cases same <;> simp

theorem SameText.finish_eq {done done' : List String} (same : SameText done done') :
    finish done = finish done' := by
  have dropped := same.dropBlanks
  apply String.toList_inj.mp
  rw [toList_finish, toList_finish, dropped.laid_eq]
  simp only [dropped.eq_nil_iff]

/-- Items that come out as the same text at a depth, whatever has been laid before. -/
def Alike (depth : Nat) (items items' : Source) : Prop :=
  ∀ done done', SameText done done' →
    SameText (addItems depth items done) (addItems depth items' done')

section Alike

variable {depth : Nat}

theorem Alike.append {first second first' second' : Source} (one : Alike depth first first')
    (other : Alike depth second second') : Alike depth (first ++ second) (first' ++ second') := by
  intro done done' same
  rw [addItems_append, addItems_append]
  exact other _ _ (one done done' same)

theorem Alike.block (header : String) {body body' : Source}
    (inside : Alike (depth + 1) body body') :
    Alike depth [.block header body] [.block header body'] := by
  intro done done' same
  simp only [addItems, addItem, addPieces_eq]
  exact .line _ (inside _ _ (same.append_left _)).dropBlanks

mutual

theorem Alike.item (depth : Nat) (item : Item) : Alike depth [item] [item] := by
  intro done done' same
  cases item with
  | line text => exact .line _ same
  | lines texts =>
    simp only [addItems, addItem, foldl_addPieces]
    exact same.append_left _
  | blank => exact same.addBlank
  | block header body => exact Alike.block header (Alike.refl (depth + 1) body) done done' same
  | clause header body second handler =>
    have inBody := Alike.refl (depth + 1) body
    have inHandler := Alike.refl (depth + 1) handler
    simp only [addItems, addItem]
    exact .line _ (inHandler _ _ (.line _ (inBody _ _ (.line _ same)).dropBlanks)).dropBlanks

theorem Alike.refl (depth : Nat) (items : Source) : Alike depth items items := by
  cases items with
  | nil => exact fun _ _ same => same
  | cons item rest => exact (Alike.item depth item).append (Alike.refl depth rest)

end

theorem Alike.layout_eq {source source' : Source} (alike : Alike 0 source source') :
    source.layout = source'.layout :=
  (alike [] [] .nil).finish_eq

end Alike

/-- A text of several lines, of which all but the first are indented; more text may follow on the
last. -/
def hang (depth : Nat) : List Char → List Char
  | [] => []
  | c :: rest =>
    if c = '\n' ∧ rest.head? ≠ some '\n' then
      '\n' :: (List.replicate (2 * depth) ' ' ++ hang depth rest)
    else c :: hang depth rest

def hanging (depth : Nat) (text : String) : String :=
  String.ofList (hang depth text.toList)

section Hang

variable {depth : Nat}

theorem hang_append {start : List Char} (unbroken : '\n' ∉ start) (rest : List Char) :
    hang depth (start ++ rest) = start ++ hang depth rest := by
  induction start with
  | nil => rfl
  | cons c start ih =>
    rw [List.mem_cons, not_or] at unbroken
    have other : ¬(c = '\n' ∧ (start ++ rest).head? ≠ some '\n') :=
      fun broken => unbroken.1 broken.1.symm
    rw [List.cons_append, hang, if_neg other, ih unbroken.2, List.cons_append]

theorem hang_of_unbroken {text : List Char} (unbroken : '\n' ∉ text) : hang depth text = text := by
  have whole : hang depth (text ++ []) = text ++ hang depth [] := hang_append unbroken []
  rwa [List.append_nil, hang, List.append_nil] at whole

theorem length_le_hang (text : List Char) : text.length ≤ (hang depth text).length := by
  induction text with
  | nil => simp
  | cons c text ih =>
    rw [hang]
    split <;> simp <;> omega

/-- The last line break of a text is followed by blanks. -/
theorem length_lt_hang (positive : 0 < depth) {text : List Char} (broken : '\n' ∈ text) :
    text.length < (hang depth text).length := by
  induction text with
  | nil => cases broken
  | cons c text ih =>
    have longer : text.length ≤ (hang depth text).length := length_le_hang text
    rw [hang]
    split
    · simp
      omega
    · next continues =>
      have behind : '\n' ∈ text := by
        rcases List.mem_cons.mp broken with rfl | inText
        · have next : text.head? = some '\n' :=
            Decidable.byContradiction fun other => continues ⟨rfl, other⟩
          exact List.mem_of_mem_head? next
        · exact inText
      simpa using ih behind

theorem hang_eq_iff (positive : 0 < depth) {text : List Char} :
    hang depth text = text ↔ '\n' ∉ text := by
  constructor
  · intro same broken
    have longer := length_lt_hang positive broken
    rw [same] at longer
    exact Nat.lt_irrefl _ longer
  · exact hang_of_unbroken

theorem hanging_eq_iff (positive : 0 < depth) {text : String} :
    hanging depth text = text ↔ '\n' ∉ text.toList := by
  rw [← hang_eq_iff positive, hanging, ← String.toList_inj, String.toList_ofList]

theorem head?_escapeChars (text rest : List Char) (other : rest.head? ≠ some '\n') :
    (escapeChars text ++ rest).head? = some '\n' ↔ text.head? = some '\n' := by
  cases text with
  | nil => simpa [escapeChars] using other
  | cons c text =>
    by_cases special : needsEscape c = true
    · have notBreak : c ≠ '\n' := by
        rintro rfl
        cases special
      simp [escapeChars, special, notBreak]
    · simp [escapeChars, special]

theorem escapeChars_cons (c : Char) (text : List Char) :
    escapeChars (c :: text) = (if needsEscape c then ['\\', c] else [c]) ++ escapeChars text :=
  List.flatMap_cons

theorem escapeChars_append (first second : List Char) :
    escapeChars (first ++ second) = escapeChars first ++ escapeChars second :=
  List.flatMap_append

theorem escapeChars_blanks (count : Nat) :
    escapeChars (List.replicate count ' ') = List.replicate count ' ' := by
  induction count with
  | zero => rfl
  | succ count ih =>
    rw [List.replicate_succ, escapeChars_cons, ih]
    rfl

/-- Escaping a text and breaking its lines do not get into each other's way. -/
theorem hang_escapeChars (text : List Char) :
    hang depth (escapeChars text ++ ['"']) = escapeChars (hang depth text) ++ ['"'] := by
  induction text with
  | nil => exact hang_of_unbroken (by decide)
  | cons c text ih =>
    by_cases isBreak : c = '\n'
    · have whole : escapeChars (c :: text) = '\n' :: escapeChars text := by
        rw [escapeChars_cons, isBreak]
        rfl
      have next := head?_escapeChars text ['"'] (by decide)
      rw [whole, isBreak, List.cons_append, hang, hang, ih]
      by_cases more : text.head? = some '\n'
      · rw [if_neg fun breaks => breaks.2 (next.mpr more), if_neg fun breaks => breaks.2 more,
          escapeChars_cons]
        rfl
      · rw [if_pos ⟨rfl, fun same => more (next.mp same)⟩, if_pos ⟨rfl, more⟩, escapeChars_cons,
          escapeChars_append, escapeChars_blanks]
        simp [needsEscape]
    · have unbroken : '\n' ∉ (if needsEscape c then ['\\', c] else [c]) := by
        split <;> simp [Ne.symm isBreak]
      have kept : hang depth (c :: text) = c :: hang depth text := by
        rw [hang, if_neg fun broken => isBreak broken.1]
      rw [escapeChars_cons, List.append_assoc, hang_append unbroken, ih, kept, escapeChars_cons,
        List.append_assoc]

/-- A literal with line breaks is laid as the literal of another text. -/
theorem hanging_stringLiteral {start : String} (unbroken : '\n' ∉ start.toList) (text : String) :
    hanging depth (start ++ stringLiteral text) = start ++ stringLiteral (hanging depth text) := by
  have opened : '\n' ∉ start.toList ++ ['"'] := by simp [unbroken]
  have spelled (value : String) : (start ++ stringLiteral value).toList =
      start.toList ++ ['"'] ++ (escapeChars value.toList ++ ['"']) := by
    simp [stringLiteral, escape]
  apply String.toList_inj.mp
  rw [hanging, String.toList_ofList, spelled, spelled, hang_append opened, hang_escapeChars,
    hanging, String.toList_ofList]

/-- The first line of a text, and the others below it, are the text with its lines hanging. -/
theorem laid_pieces (depth : Nat) (text : List Char) (ends : text.getLast? ≠ some '\n') :
    ∃ first more, Text.splitChars (· == '\n') text = first :: more ∧
      (first = [] ↔ text = [] ∨ text.head? = some '\n') ∧
      first ++ '\n' :: laid (more.map fun piece => indent depth (String.ofList piece)) =
        hang depth text ++ ['\n'] := by
  induction text with
  | nil => exact ⟨[], [], rfl, by simp, rfl⟩
  | cons c text ih =>
    have endsBehind : text.getLast? ≠ some '\n' := by
      cases text with
      | nil => simp
      | cons d rest => simpa using ends
    obtain ⟨first, more, split, empty, same⟩ := ih endsBehind
    by_cases isBreak : c = '\n'
    · have nonempty : text ≠ [] := by
        rintro rfl
        simp [isBreak] at ends
      refine ⟨[], first :: more, ?_, by simp [isBreak], ?_⟩
      · rw [Text.splitChars, if_pos (by simp [isBreak]), split]
      · have next : first = [] ↔ text.head? = some '\n' := by simpa [nonempty] using empty
        rw [List.map_cons, laid_cons, hang, isBreak]
        by_cases blank : text.head? = some '\n'
        · rw [if_neg (by simp [blank])]
          rw [next.mpr blank] at same ⊢
          rw [List.cons_append, ← same]
          rfl
        · have visible : (String.ofList first).isEmpty = false := by
            simpa using fun absent => blank (next.mp absent)
          rw [if_pos ⟨rfl, blank⟩, List.cons_append, List.append_assoc, ← same, indent, visible]
          simp
    · refine ⟨c :: first, more, ?_, by simp [isBreak], ?_⟩
      · rw [Text.splitChars, if_neg (by simp [isBreak]), split]
      · rw [hang, if_neg fun broken => isBreak broken.1, List.cons_append, same, List.cons_append]

/-- What ends the text ends the last piece. -/
theorem splitChars_concat {p : Char → Bool} {c : Char} (keep : p c = false) (text : List Char) :
    ∃ before last, Text.splitChars p (text ++ [c]) = before ++ [last ++ [c]] := by
  induction text with
  | nil => exact ⟨[], [], by simp [Text.splitChars, keep]⟩
  | cons d text ih =>
    obtain ⟨before, last, split⟩ := ih
    rw [List.cons_append, Text.splitChars, split]
    by_cases cut : p d = true
    · exact ⟨[] :: before, last, by simp [cut]⟩
    · cases before with
      | nil => exact ⟨[], d :: last, by simp [cut]⟩
      | cons piece before => exact ⟨(d :: piece) :: before, last, by simp [cut]⟩

theorem reverse_lines {text : String} {before : List Char} {last : Char}
    (ends : text.toList = before ++ [last]) (visible : last ≠ '\n') :
    ∃ piece earlier, (Text.lines text).reverse = piece :: earlier ∧ piece ≠ "" := by
  obtain ⟨earlier, piece, split⟩ := splitChars_concat (p := (· == '\n')) (c := last)
    (by simpa using visible) before
  refine ⟨String.ofList (piece ++ [last]), (earlier.map String.ofList).reverse, ?_, by simp⟩
  rw [Text.lines, Text.split, ends, split]
  simp

theorem intercalate_lines (depth : Nat) {text : String} {first : Char} {rest : List Char}
    (begins : text.toList = first :: rest) (visible : first ≠ '\n')
    (ends : text.toList.getLast? ≠ some '\n') :
    "\n".intercalate ((Text.lines text).map (indent depth)) =
      indent depth (hanging depth text) := by
  obtain ⟨start, more, split, empty, same⟩ := laid_pieces depth text.toList ends
  have startNonempty : start ≠ [] := by
    rw [Ne, empty, begins]
    simpa using visible
  have nonempty : hang depth text.toList ≠ [] := by
    rw [← List.length_pos_iff]
    have longer : text.toList.length ≤ (hang depth text.toList).length := length_le_hang _
    rw [begins] at longer ⊢
    exact Nat.lt_of_lt_of_le (Nat.succ_pos _) longer
  have listed : (Text.lines text).map (indent depth) = indent depth (String.ofList start) ::
      more.map fun piece => indent depth (String.ofList piece) := by
    simp [Text.lines, Text.split, split]
  have nonemptyLines : (Text.lines text).map (indent depth) ≠ [] := by simp [listed]
  have whole := intercalate_append_break nonemptyLines
  rw [listed, laid_cons, toList_indent (by simpa using startNonempty), String.toList_ofList,
    List.append_assoc, same, ← List.append_assoc, String.toList_append] at whole
  apply String.toList_inj.mp
  rw [toList_indent (by simpa [hanging] using nonempty), hanging, String.toList_ofList, listed]
  exact List.append_cancel_right whole

def isFramed (text : String) : Bool :=
  text.toList.head?.any (· != '\n') && text.toList.getLast?.any (· != '\n')

theorem isFramed_around {start last : String} (begins : isFramed start = true)
    (ends : isFramed last = true) (middle : String) :
    isFramed (start ++ middle ++ last) = true := by
  simp only [isFramed, Bool.and_eq_true, Option.any_eq_true] at begins ends ⊢
  obtain ⟨⟨first, found, visible⟩, -⟩ := begins
  obtain ⟨-, final, found', visible'⟩ := ends
  exact ⟨⟨first, by simp [found], visible⟩, final, by simp [found'], visible'⟩

theorem isFramed_assignment {start : String} (begins : isFramed start = true) (text : String) :
    isFramed (start ++ stringLiteral text) = true := by
  unfold stringLiteral
  rw [← String.append_assoc]
  exact isFramed_around begins (by decide) _

/-- A text that is laid line by line comes out as one line whose text hangs. -/
theorem alike_hanging {text : String} (framed : isFramed text = true) :
    Alike depth [.lines [text]] [.line (hanging depth text)] := by
  simp only [isFramed, Bool.and_eq_true, Option.any_eq_true, bne_iff_ne] at framed
  obtain ⟨⟨first, begins, firstVisible⟩, last, ends, lastVisible⟩ := framed
  obtain ⟨rest, begins⟩ := List.head?_eq_some_iff.mp begins
  obtain ⟨before, ends⟩ := List.getLast?_eq_some_iff.mp ends
  obtain ⟨piece, earlier, reversed, nonempty⟩ := reverse_lines ends lastVisible
  have joined := intercalate_lines depth begins firstVisible
    (by simpa [ends] using lastVisible)
  have lastNonempty : indent depth piece ≠ "" := by
    intro blank
    have spelled : (indent depth piece).toList = List.replicate (2 * depth) ' ' ++ piece.toList :=
      toList_indent nonempty
    rw [blank] at spelled
    exact absurd spelled.symm (by simp [nonempty])
  have reversedPieces : ((Text.lines text).map (indent depth)).reverse =
      indent depth piece :: earlier.map (indent depth) := by
    rw [← List.map_reverse, reversed, List.map_cons]
  intro done done' before
  have step := SameText.joined (earlier.map (indent depth)) lastNonempty before
  rw [← reversedPieces, List.reverse_reverse, joined] at step
  simp only [addItems, addItem, foldl_addPieces, List.flatMap_cons, List.flatMap_nil,
    List.append_nil]
  exact step

def hungLines (depth : Nat) (texts : List String) : Source :=
  texts.map fun text => .line (hanging depth text)

theorem alike_lines {texts : List String} (framed : ∀ text ∈ texts, isFramed text = true) :
    Alike depth [.lines texts] (hungLines depth texts) := by
  induction texts with
  | nil => exact fun _ _ same => same
  | cons text texts ih =>
    have first : Alike depth [.lines [text]] [.line (hanging depth text)] :=
      alike_hanging (framed text List.mem_cons_self)
    exact first.append (ih fun other member => framed other (.tail _ member))

end Hang

end ClientGem.Ruby
