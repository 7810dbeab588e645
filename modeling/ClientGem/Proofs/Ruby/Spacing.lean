import ClientGem.Proofs.Ruby.Layout
import Mathlib.Data.List.Chain

/-!
Every line of a layout and the empty lines between them. No written line is lost or moved, each
stands as deep as the blocks around it, and where the items write no empty lines of their own, an
empty line stands between two others only, and never before a clause or the end of a block.
-/

namespace ClientGem.Ruby

open Source

/-- A line that the items write: how deep it stands, its text, and whether it closes what stands
above it, as a clause and the end of a block do. -/
structure Row where
  depth : Nat
  text : String
  closes : Bool
deriving DecidableEq, Repr

def Row.shown (row : Row) : String :=
  String.ofList (List.replicate (2 * row.depth) ' ') ++ row.text

def pieceRows (depth : Nat) (text : String) : List Row :=
  (Text.lines text).map fun piece => ⟨depth, piece, false⟩

mutual

def Item.rows (depth : Nat) : Item → List Row
  | .line text => [⟨depth, text, false⟩]
  | .lines texts => texts.flatMap (pieceRows depth)
  | .blank => []
  | .block header body =>
    pieceRows depth header ++ Source.rows (depth + 1) body ++ [⟨depth, "end", true⟩]
  | .clause header body second handler =>
    [⟨depth, header, false⟩] ++ Source.rows (depth + 1) body ++ [⟨depth, second, true⟩] ++
      Source.rows (depth + 1) handler ++ [⟨depth, "end", true⟩]

def Source.rows (depth : Nat) : List Item → List Row
  | [] => []
  | item :: rest => item.rows depth ++ Source.rows depth rest

end

def lineOf : Option Row → String
  | none => ""
  | some row => row.shown

/-- An empty line stands between two rows, of which the second is neither a clause nor the end of a
block. -/
structure Spaced (lines : List (Option Row)) : Prop where
  begins : ∃ row, lines.head? = some (some row)
  ends : ∃ row, lines.getLast? = some (some row)
  between : lines.IsChain fun line next =>
    line = none → ∃ row, next = some row ∧ row.closes = false

section Shown

variable {depth : Nat} {text : String}

theorem indent_eq_shown (closes : Bool) (visible : text ≠ "") :
    indent depth text = (⟨depth, text, closes⟩ : Row).shown := by
  rw [indent, if_neg (by simpa using visible)]
  rfl

theorem shown_ne_empty {row : Row} (visible : row.text ≠ "") : row.shown ≠ "" := by
  rw [Row.shown]
  intro empty
  have chars := congrArg String.toList empty
  rw [String.toList_append] at chars
  exact visible (by simpa using (List.append_eq_nil_iff.mp chars).2)

/-- What is written is what the rows show, but an empty text is shown without its indentation. -/
theorem nonblank_map_indent (rows : List Row) :
    nonblank (rows.map fun row => indent row.depth row.text) =
      (rows.filter (·.text ≠ "")).map Row.shown := by
  induction rows with
  | nil => rfl
  | cons row rows ih =>
    rw [List.map_cons, nonblank_cons, ih, List.filter_cons]
    by_cases empty : row.text = ""
    · simp [nonblank, indent, empty]
    · have visible := shown_ne_empty empty
      simp [nonblank, indent_eq_shown row.closes empty, visible, empty]

theorem map_indent_pieceRows :
    (pieceRows depth text).map (fun row => indent row.depth row.text) =
      (Text.lines text).map (indent depth) := by
  rw [pieceRows, List.map_map]
  rfl

mutual

theorem Item.written_eq (depth : Nat) (item : Item) :
    item.written depth = (item.rows depth).map fun row => indent row.depth row.text := by
  cases item with
  | line text => rfl
  | lines texts =>
    rw [Item.written, Item.rows, List.map_flatMap]
    simp only [map_indent_pieceRows]
  | blank => rfl
  | block header body =>
    rw [Item.written, Item.rows, List.map_append, List.map_append, map_indent_pieceRows,
      Source.written_eq (depth + 1) body]
    rfl
  | clause header body second handler =>
    rw [Item.written, Item.rows]
    simp only [List.map_append, Source.written_eq (depth + 1) body,
      Source.written_eq (depth + 1) handler]
    rfl

theorem Source.written_eq (depth : Nat) (items : List Item) :
    Source.written depth items =
      (Source.rows depth items).map fun row => indent row.depth row.text := by
  cases items with
  | nil => rfl
  | cons item rest =>
    rw [Source.written, Source.rows, List.map_append, Item.written_eq depth item,
      Source.written_eq depth rest]

end

end Shown

structure Stacked (marks : List (Option Row)) : Prop where
  visible : ∀ row, some row ∈ marks → row.text ≠ ""
  between : marks.IsChain fun next line =>
    line = none → ∃ row, next = some row ∧ row.closes = false
  bottom : marks.getLast? ≠ some none

namespace Stacked

variable {marks : List (Option Row)} {mark : Option Row}

theorem tail (stacked : Stacked (mark :: marks)) : Stacked marks where
  visible row member := stacked.visible row (List.mem_cons_of_mem _ member)
  between := stacked.between.tail
  bottom := by
    cases marks with
    | nil => simp
    | cons next marks => simpa using stacked.bottom

theorem cons (stacked : Stacked marks) (visible : ∀ row, mark = some row → row.text ≠ "")
    (follows : marks.head? = some none → ∃ row, mark = some row ∧ row.closes = false)
    (bottom : marks = [] → mark ≠ none) : Stacked (mark :: marks) where
  visible row member := by
    rcases List.mem_cons.mp member with same | later
    · exact visible row same.symm
    · exact stacked.visible row later
  between := by
    refine List.isChain_cons.mpr ⟨?_, stacked.between⟩
    rintro line isHead rfl
    exact follows isHead
  bottom := by
    cases marks with
    | nil => simpa using bottom rfl
    | cons next marks => simpa using stacked.bottom

/-- What is left when empty lines are dropped is either nothing or has a row on top. -/
theorem drop (stacked : Stacked marks) : Stacked (marks.dropWhile Option.isNone) ∧
    (marks.dropWhile Option.isNone).head? ≠ some none := by
  induction marks with
  | nil => exact ⟨stacked, by simp⟩
  | cons mark marks ih =>
    cases mark with
    | none => exact ih stacked.tail
    | some row => exact ⟨stacked, by simp⟩

theorem map_drop (stacked : Stacked marks) :
    (marks.dropWhile Option.isNone).map lineOf = dropBlanks (marks.map lineOf) := by
  induction marks with
  | nil => rfl
  | cons mark marks ih =>
    cases mark with
    | none => exact ih stacked.tail
    | some row =>
      have visible := shown_ne_empty (stacked.visible row List.mem_cons_self)
      exact (List.dropWhile_cons_of_neg (by simpa [lineOf] using visible)).symm

end Stacked

theorem filterMap_dropWhile (marks : List (Option Row)) :
    (marks.dropWhile Option.isNone).filterMap id = marks.filterMap id := by
  induction marks with
  | nil => rfl
  | cons mark marks ih =>
    cases mark with
    | none => exact ih
    | some row => rfl

/-- The lines laid so far are the given rows and empty lines between them. -/
def Lays (rows : List Row) (done : List String) : Prop :=
  ∃ marks, Stacked marks ∧ marks.map lineOf = done ∧ (marks.filterMap id).reverse = rows

namespace Lays

variable {rows : List Row} {done : List String}

theorem nil : Lays [] [] :=
  ⟨[], ⟨by simp, List.isChain_nil, by simp⟩, rfl, rfl⟩

theorem end_visible : "end" ≠ "" := by
  decide

theorem push (lays : Lays rows done) (row : Row) (visible : row.text ≠ "")
    (still : row.closes = false) : Lays (rows ++ [row]) (row.shown :: done) := by
  obtain ⟨marks, stacked, rfl, rfl⟩ := lays
  refine ⟨some row :: marks, stacked.cons ?_ (fun _ => ⟨row, rfl, still⟩) (by simp), rfl,
    by simp⟩
  rintro _ ⟨⟩
  exact visible

theorem close (lays : Lays rows done) (row : Row) (visible : row.text ≠ "") :
    Lays (rows ++ [row]) (row.shown :: dropBlanks done) := by
  obtain ⟨marks, stacked, rfl, rfl⟩ := lays
  obtain ⟨dropped, top⟩ := stacked.drop
  refine ⟨some row :: marks.dropWhile Option.isNone,
    dropped.cons ?_ (fun blank => absurd blank top) (by simp), ?_, ?_⟩
  · rintro _ ⟨⟩
    exact visible
  · rw [List.map_cons, stacked.map_drop]
    rfl
  · have kept : (some row :: marks.dropWhile Option.isNone).filterMap id =
        row :: marks.filterMap id :=
      congrArg (row :: ·) (filterMap_dropWhile marks)
    rw [kept, List.reverse_cons]

theorem blank (lays : Lays rows done) : Lays rows (addBlank done) := by
  obtain ⟨marks, stacked, rfl, rfl⟩ := lays
  cases marks with
  | nil => exact nil
  | cons mark marks =>
    cases mark with
    | none => exact ⟨none :: marks, stacked, rfl, rfl⟩
    | some row =>
      have visible := shown_ne_empty (stacked.visible row List.mem_cons_self)
      have added : addBlank ((some row :: marks).map lineOf) =
          "" :: (some row :: marks).map lineOf :=
        if_neg (by simpa [lineOf] using visible)
      rw [added]
      exact ⟨none :: some row :: marks, stacked.cons (by simp) (by simp) (by simp), rfl, rfl⟩

theorem pushAll (lays : Lays rows done) {more : List Row}
    (visible : ∀ row ∈ more, row.text ≠ "") (still : ∀ row ∈ more, row.closes = false) :
    Lays (rows ++ more) ((more.map fun row => indent row.depth row.text).reverse ++ done) := by
  induction more generalizing rows done with
  | nil => simpa using lays
  | cons row more ih =>
    rw [List.forall_mem_cons] at visible still
    have first := lays.push row visible.1 still.1
    rw [← indent_eq_shown row.closes visible.1] at first
    simpa using ih first visible.2 still.2

theorem pieces (lays : Lays rows done) {depth : Nat} {text : String}
    (visible : ∀ row ∈ pieceRows depth text, row.text ≠ "") :
    Lays (rows ++ pieceRows depth text) (addPieces depth text done) := by
  rw [addPieces_eq, ← map_indent_pieceRows]
  exact lays.pushAll visible (by simp [pieceRows])

mutual

theorem item {rows : List Row} {done : List String} (lays : Lays rows done) (depth : Nat)
    (item : Item) (visible : ∀ row ∈ item.rows depth, row.text ≠ "") :
    Lays (rows ++ item.rows depth) (addItem depth item done) := by
  cases item with
  | line text =>
    have visible : text ≠ "" := by simpa [Item.rows] using visible
    rw [addItem, Item.rows, indent_eq_shown false visible]
    exact lays.push _ visible rfl
  | lines texts =>
    rw [addItem, Item.rows]
    rw [Item.rows] at visible
    induction texts generalizing rows done with
    | nil => simpa using lays
    | cons text texts ih =>
      rw [List.flatMap_cons, List.forall_mem_append] at visible
      rw [List.foldl_cons, List.flatMap_cons, ← List.append_assoc]
      exact ih (lays.pieces visible.1) visible.2
  | blank =>
    rw [addItem, Item.rows, List.append_nil]
    exact lays.blank
  | block header body =>
    rw [Item.rows, List.forall_mem_append, List.forall_mem_append] at visible
    have inside := (lays.pieces visible.1.1).items (depth + 1) body visible.1.2
    have ended := inside.close ⟨depth, "end", true⟩ end_visible
    rw [addItem, Item.rows, indent_eq_shown true end_visible]
    simpa only [List.append_assoc] using ended
  | clause header body second handler =>
    rw [Item.rows, List.forall_mem_append, List.forall_mem_append, List.forall_mem_append,
      List.forall_mem_append] at visible
    obtain ⟨⟨⟨⟨first, inBody⟩, between⟩, inHandler⟩, -⟩ := visible
    have first : header ≠ "" := first _ (List.mem_singleton_self _)
    have between : second ≠ "" := between _ (List.mem_singleton_self _)
    have inside := (lays.push ⟨depth, header, false⟩ first rfl).items (depth + 1) body
      inBody
    have handled := (inside.close ⟨depth, second, true⟩ between).items (depth + 1) handler
      inHandler
    have ended := handled.close ⟨depth, "end", true⟩ end_visible
    rw [addItem, Item.rows, indent_eq_shown false first, indent_eq_shown true between,
      indent_eq_shown true end_visible]
    simpa only [List.append_assoc] using ended

theorem items {rows : List Row} {done : List String} (lays : Lays rows done) (depth : Nat)
    (items : List Item) (visible : ∀ row ∈ Source.rows depth items, row.text ≠ "") :
    Lays (rows ++ Source.rows depth items) (addItems depth items done) := by
  cases items with
  | nil => simpa [Source.rows, addItems] using lays
  | cons item rest =>
    rw [Source.rows, List.forall_mem_append] at visible
    rw [Source.rows, addItems, ← List.append_assoc]
    exact (lays.item depth item visible.1).items depth rest visible.2

end

end Lays

theorem exists_row {end? : Option (Option Row)} (some_line : end? ≠ none)
    (not_empty : end? ≠ some none) : ∃ row, end? = some (some row) := by
  rcases end? with _ | _ | row
  · exact absurd rfl some_line
  · exact absurd rfl not_empty
  · exact ⟨row, rfl⟩

/-- What is laid is well spaced when the empty lines at its end are dropped. -/
theorem exists_spaced {rows : List Row} {done : List String} (lays : Lays rows done)
    (ne_nil : rows ≠ []) : ∃ lines, Spaced lines ∧ lines.filterMap id = rows ∧
      (dropBlanks done).reverse = lines.map lineOf := by
  obtain ⟨marks, stacked, rfl, rfl⟩ := lays
  obtain ⟨dropped, top⟩ := stacked.drop
  have kept := filterMap_dropWhile marks
  have full : marks.dropWhile Option.isNone ≠ [] := by
    intro empty
    rw [empty] at kept
    rw [← kept] at ne_nil
    exact ne_nil rfl
  refine ⟨(marks.dropWhile Option.isNone).reverse, ⟨?_, ?_, ?_⟩, ?_, ?_⟩
  · rw [List.head?_reverse]
    exact exists_row (by simpa using full) dropped.bottom
  · rw [List.getLast?_reverse]
    exact exists_row (by simpa using full) top
  · rw [List.isChain_reverse]
    exact dropped.between
  · rw [List.filterMap_reverse, kept]
  · rw [← stacked.map_drop, List.map_reverse]

theorem laid_ends {lines : List String} {last : String} (isLast : lines.getLast? = some last)
    (visible : last ≠ "") (unbroken : '\n' ∉ last.toList) :
    ∃ chars c, laid lines = chars ++ [c, '\n'] ∧ c ≠ '\n' := by
  obtain ⟨before, rfl⟩ := List.getLast?_eq_some_iff.mp isLast
  have shows : last.toList ≠ [] := by simpa using visible
  obtain ⟨start, c, spelled⟩ := (List.eq_nil_or_concat last.toList).resolve_left shows
  rw [List.concat_eq_append] at spelled
  refine ⟨laid before ++ start, c, by simp [spelled], ?_⟩
  rintro rfl
  exact unbroken (by simp [spelled])

/-- A layout loses no line and indents each by its place. Where no written line is empty, it is laid
out with single empty lines inside, and with one line break at its end. -/
theorem layout_spaced {source : Source} (unbroken : Source.Unbroken source) :
    nonblank (Text.lines source.layout) =
      ((Source.rows 0 source).filter (·.text ≠ "")).map Row.shown ∧
    ((∀ row ∈ Source.rows 0 source, row.text ≠ "") → Source.rows 0 source ≠ [] →
      (∃ lines, Spaced lines ∧ lines.filterMap id = Source.rows 0 source ∧
        Text.lines source.layout = lines.map lineOf ++ [""]) ∧
      ∃ chars c, source.layout.toList = chars ++ [c, '\n'] ∧ c ≠ '\n') := by
  constructor
  · rw [nonblank_lines_layout unbroken, Source.written_eq, nonblank_map_indent]
  intro visible ne_nil
  have lays : Lays (Source.rows 0 source) (addItems 0 source []) :=
    Lays.nil.items 0 source visible
  obtain ⟨lines, spaced, rows, same⟩ := exists_spaced lays ne_nil
  have every : AllUnbroken (lines.map lineOf) := by
    rw [← same]
    exact (allUnbroken_addItems unbroken).reverse_dropBlanks
  obtain ⟨row, isLast⟩ := spaced.ends
  have shown : (lines.map lineOf).getLast? = some row.shown := by
    rw [List.getLast?_map, isLast]
    rfl
  have text : source.layout.toList = laid (lines.map lineOf) := by
    have full : dropBlanks (addItems 0 source []) ≠ [] := by
      intro empty
      rw [← same, empty] at shown
      cases shown
    rw [layout, toList_finish, if_neg full, same]
  have inRows : row ∈ Source.rows 0 source := by
    rw [← rows]
    exact List.mem_filterMap.mpr ⟨some row, List.mem_of_getLast? isLast, rfl⟩
  refine ⟨⟨lines, spaced, rows, ?_⟩, ?_⟩
  · have read := lines_ofList_laid every
    rwa [← text, String.ofList_toList] at read
  · rw [text]
    exact laid_ends shown (shown_ne_empty (visible row inRows))
      (every _ (List.mem_of_getLast? shown))

def guarded : Source :=
  [.blank, .block "class Client" [.blank, .line "attr_reader :base", .blank, .blank,
    .clause "if base" [.line "1", .blank] "else" [.lines ["2\n3"], .blank], .blank], .blank]

theorem layout_spaced_guarded : Source.Unbroken guarded ∧
    (∀ row ∈ Source.rows 0 guarded, row.text ≠ "") ∧ Source.rows 0 guarded ≠ [] ∧
    nonblank (Text.lines guarded.layout) =
      ((Source.rows 0 guarded).filter (·.text ≠ "")).map Row.shown ∧
    (∃ lines, Spaced lines ∧ lines.filterMap id = Source.rows 0 guarded ∧
      Text.lines guarded.layout = lines.map lineOf ++ [""]) ∧
    ∃ chars c, guarded.layout.toList = chars ++ [c, '\n'] ∧ c ≠ '\n' := by
  have unbroken : Source.Unbroken guarded := by
    simp only [guarded, Source.Unbroken, Item.Unbroken]
    decide
  have visible : ∀ row ∈ Source.rows 0 guarded, row.text ≠ "" := by decide
  have ne_nil : Source.rows 0 guarded ≠ [] := by decide
  obtain ⟨rows, spaced⟩ := layout_spaced unbroken
  exact ⟨unbroken, visible, ne_nil, rows, spaced visible ne_nil⟩

example : layout [.block "def find" [.blank, .line "1", .blank, .blank, .line "2", .blank]] =
    "def find\n\n  1\n\n  2\nend\n" := by
  decide +kernel

end ClientGem.Ruby
