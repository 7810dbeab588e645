import ClientGem.Proofs.Ruby.Definitions
import ClientGem.Proofs.Ruby.Layout

/-!
Source read for statements of one kind: the lines that stand at a given depth and begin with a given
keyword, with what follows it. No text that is written at another depth is taken for one of them.
-/

namespace ClientGem.Ruby

open Source

def between? (start last text : List Char) : Option String :=
  if start.isPrefixOf text then
    let rest := text.drop start.length
    if last.isSuffixOf rest then some (String.ofList (rest.take (rest.length - last.length)))
    else none
  else none

theorem between?_append (start middle last : List Char) :
    between? start last (start ++ (middle ++ last)) = some (String.ofList middle) := by
  have starts : start.isPrefixOf (start ++ (middle ++ last)) = true :=
    List.isPrefixOf_iff_prefix.mpr (List.prefix_append _ _)
  have ends : last.isSuffixOf (middle ++ last) = true :=
    List.isSuffixOf_iff_suffix.mpr (List.suffix_append _ _)
  unfold between?
  rw [if_pos starts, List.drop_left]
  simp [ends]

theorem between?_appended (start rest : String) :
    between? start.toList [] (start ++ rest).toList = some rest := by
  have found := between?_append start.toList rest.toList []
  rwa [List.append_nil, ← String.toList_append, String.ofList_toList] at found

theorem between?_eq_none {start last text : List Char} (other : ¬start <+: text) :
    between? start last text = none :=
  if_neg fun starts => other (List.isPrefixOf_iff_prefix.mp starts)

def Apart (first second : List Char) : Prop :=
  ¬first <+: second ∧ ¬second <+: first

instance (first second : List Char) : Decidable (Apart first second) :=
  inferInstanceAs (Decidable (_ ∧ _))

theorem between?_of_apart {start last text begin : List Char} (begins : begin <+: text)
    (apart : Apart start begin) : between? start last text = none := by
  apply between?_eq_none
  intro starts
  cases List.prefix_or_prefix_of_prefix starts begins with
  | inl inBegin => exact apart.1 inBegin
  | inr inStart => exact apart.2 inStart

def lineStart (depth : Nat) (keyword : String) : List Char :=
  List.replicate (2 * depth) ' ' ++ keyword.toList

def statement? (depth : Nat) (keyword line : String) : Option String :=
  between? (lineStart depth keyword) [] line.toList

/-- What follows the keyword, in the lines that have it at the given depth. -/
def statements (depth : Nat) (keyword : String) (lines : List String) : List String :=
  lines.filterMap (statement? depth keyword)

section Lines

variable {depth : Nat} {keyword : String}

theorem statement?_indent (visible : keyword ≠ "") (rest : String) :
    statement? depth keyword (indent depth (keyword ++ rest)) = some rest := by
  have nonempty : keyword ++ rest ≠ "" := by simp [visible]
  have text : (indent depth (keyword ++ rest)).toList =
      lineStart depth keyword ++ (rest.toList ++ []) := by
    rw [toList_indent nonempty, lineStart]
    simp
  rw [statement?, text, between?_append, String.ofList_toList]

theorem statement?_of_apart {start : String} {other : Nat} (visible : start ≠ "")
    (apart : Apart (lineStart depth keyword) (lineStart other start)) (rest : String) :
    statement? depth keyword (indent other (start ++ rest)) = none := by
  have nonempty : start ++ rest ≠ "" := by simp [visible]
  have begins : lineStart other start <+: (indent other (start ++ rest)).toList := by
    rw [toList_indent nonempty, String.toList_append, ← List.append_assoc]
    exact List.prefix_append _ _
  exact between?_of_apart begins apart

/-- At a greater depth no text is a statement, whatever it begins with. -/
theorem statement?_deeper {c : Char} (begins : keyword.toList.head? = some c) (noBlank : c ≠ ' ')
    {deeper : Nat} (below : depth < deeper) (text : String) :
    statement? depth keyword (indent deeper text) = none := by
  obtain ⟨cs, spelled⟩ := List.head?_eq_some_iff.mp begins
  apply between?_eq_none
  by_cases empty : text = ""
  · simp [lineStart, spelled, indent, empty]
  · obtain ⟨more, rfl⟩ : ∃ more, deeper = depth + 1 + more := ⟨deeper - (depth + 1), by omega⟩
    have blanks : List.replicate (2 * (depth + 1 + more)) ' ' =
        List.replicate (2 * depth) ' ' ++ (' ' :: List.replicate (2 * more + 1) ' ') := by
      rw [← List.replicate_succ, List.replicate_append_replicate]
      congr 1
      omega
    rw [toList_indent empty, lineStart, blanks, List.append_assoc, List.prefix_append_right_inj,
      spelled]
    intro starts
    exact noBlank (List.cons_prefix_cons.mp starts).1

theorem statement?_empty (visible : keyword ≠ "") : statement? depth keyword "" = none := by
  apply between?_eq_none
  simp [lineStart, visible]

theorem statements_append (first second : List String) :
    statements depth keyword (first ++ second) =
      statements depth keyword first ++ statements depth keyword second :=
  List.filterMap_append

theorem statements_cons_some {line text : String}
    (found : statement? depth keyword line = some text) (lines : List String) :
    statements depth keyword (line :: lines) = text :: statements depth keyword lines :=
  List.filterMap_cons_some found

theorem statements_cons_none {line : String} (absent : statement? depth keyword line = none)
    (lines : List String) :
    statements depth keyword (line :: lines) = statements depth keyword lines :=
  List.filterMap_cons_none absent

/-- In the text of a layout, the statements are found that its items write. -/
theorem statements_layout (visible : keyword ≠ "") {source : Source} (unbroken : Unbroken source) :
    statements depth keyword (Text.lines source.layout) =
      statements depth keyword (written 0 source) := by
  have skips : statement? depth keyword "" = none := statement?_empty visible
  unfold statements
  rw [← filterMap_nonblank skips, nonblank_lines_layout unbroken, filterMap_nonblank skips]

end Lines

section Deeper

variable {depth : Nat} {keyword : String} {c : Char}

theorem statements_indented (begins : keyword.toList.head? = some c) (noBlank : c ≠ ' ')
    {deeper : Nat} (below : depth < deeper) (texts : List String) :
    statements depth keyword (texts.map (indent deeper)) = [] := by
  rw [statements, List.filterMap_eq_nil_iff, List.forall_mem_map]
  exact fun text _ => statement?_deeper begins noBlank below text

mutual

theorem Item.statements_deeper (begins : keyword.toList.head? = some c) (noBlank : c ≠ ' ')
    {place : Nat} (below : depth < place) (item : Item) :
    statements depth keyword (item.written place) = [] := by
  have line (text : String) : statements depth keyword [indent place text] = [] :=
    statements_indented begins noBlank below [text]
  have inside := Nat.lt_succ_of_lt below
  cases item with
  | line text => exact line text
  | lines texts =>
    rw [Item.written, statements, List.filterMap_flatMap, List.flatMap_eq_nil_iff]
    exact fun text _ => statements_indented begins noBlank below (Text.lines text)
  | blank => rfl
  | block header body =>
    rw [Item.written, statements_append, statements_append,
      statements_indented begins noBlank below, Source.statements_deeper begins noBlank inside body,
      line]
    rfl
  | clause header body second handler =>
    rw [Item.written, statements_append, statements_append, statements_append, statements_append,
      line, line, line, Source.statements_deeper begins noBlank inside body,
      Source.statements_deeper begins noBlank inside handler]
    rfl

/-- Nothing that is written at a greater depth is a statement. -/
theorem Source.statements_deeper (begins : keyword.toList.head? = some c) (noBlank : c ≠ ' ')
    {place : Nat} (below : depth < place) (items : List Item) :
    statements depth keyword (written place items) = [] := by
  cases items with
  | nil => rfl
  | cons item rest =>
    rw [written, statements_append, Item.statements_deeper begins noBlank below item,
      Source.statements_deeper begins noBlank below rest]
    rfl

end

end Deeper

section Items

theorem written_singleton (depth : Nat) (item : Item) :
    written depth [item] = item.written depth := by
  rw [written, written, List.append_nil]

theorem written_block {header : String} (unbroken : '\n' ∉ header.toList) (depth : Nat)
    (body : Source) : (Item.block header body).written depth =
      indent depth header :: (written (depth + 1) body ++ [indent depth "end"]) := by
  simp [Item.written, Text.lines_of_unbroken unbroken]

theorem written_eachAfterBlank (depth : Nat) (items : List Item) :
    written depth (eachAfterBlank items) = written depth items := by
  induction items with
  | nil => rfl
  | cons item items ih =>
    rw [eachAfterBlank_cons, written, written, written, ih]
    rfl

theorem unbroken_eachAfterBlank {items : List Item} :
    Unbroken (eachAfterBlank items) ↔ Unbroken items := by
  induction items with
  | nil => exact Iff.rfl
  | cons item items ih =>
    rw [eachAfterBlank_cons, Unbroken, Unbroken, Unbroken, ih]
    exact and_iff_right trivial

theorem unbroken_map {α : Type} {define : α → Item} {things : List α}
    (each : ∀ thing ∈ things, (define thing).Unbroken) : Unbroken (things.map define) := by
  induction things with
  | nil => trivial
  | cons thing things ih =>
    exact ⟨each thing List.mem_cons_self, ih fun other member => each other (.tail _ member)⟩

variable {depth place : Nat} {keyword : String}

theorem statements_block {header : String} (unbroken : '\n' ∉ header.toList)
    (opened : statement? depth keyword (indent place header) = none)
    (closed : statement? depth keyword (indent place "end") = none) (body : Source) :
    statements depth keyword ((Item.block header body).written place) =
      statements depth keyword (written (place + 1) body) := by
  rw [written_block unbroken, statements_cons_none opened, statements_append,
    statements_cons_none closed]
  exact List.append_nil _

theorem statements_map {α : Type} {define : α → Item} {told : α → String} {things : List α}
    (each : ∀ thing ∈ things,
      statements depth keyword ((define thing).written place) = [told thing]) :
    statements depth keyword (written place (things.map define)) = things.map told := by
  induction things with
  | nil => rfl
  | cons thing things ih =>
    rw [List.map_cons, written, statements_append, each thing List.mem_cons_self,
      ih fun other member => each other (.tail _ member)]
    rfl

end Items

section Definitions

variable {depth : Nat}

theorem apart_lineStart {first second : String} (apart : Apart first.toList second.toList) :
    Apart (lineStart depth first) (lineStart depth second) := by
  rw [Apart, lineStart, lineStart, List.prefix_append_right_inj, List.prefix_append_right_inj]
  exact apart

theorem definition?_end : statement? depth "def " (indent depth "end") = none := by
  have apart : Apart (lineStart depth "def ") (lineStart depth "end") :=
    apart_lineStart (by decide)
  have line := statement?_of_apart (by decide) apart ""
  rwa [String.append_empty] at line

theorem definitions_block {signature : String} (unbroken : '\n' ∉ signature.toList)
    (body : Source) :
    statements depth "def " ((Item.block ("def " ++ signature) body).written depth) =
      [signature] := by
  have header : '\n' ∉ ("def " ++ signature).toList := by simp [unbroken]
  have inside : statements depth "def " (written (depth + 1) body) = [] :=
    statements_deeper rfl (by decide) (Nat.lt_succ_self depth) body
  rw [written_block header, statements_cons_some (statement?_indent (by decide) signature),
    statements_append, inside, statements_cons_none definition?_end]
  rfl

/-- The first method of a class, and then those that the others define. -/
theorem definitions_members {reader first : String}
    (noMethod : statement? depth "def " (indent depth reader) = none)
    (unbroken : '\n' ∉ first.toList) (lines : List String) (others : List Item) :
    statements depth "def " (written depth (members reader first lines others)) =
      first :: statements depth "def " (written depth others) := by
  have initial : statements depth "def " ((method first lines).written depth) = [first] :=
    definitions_block unbroken _
  rw [members, written_append, statements_append, written_eachAfterBlank, written, written,
    written_singleton, statements_append, statements_append, initial, Item.written,
    statements_cons_none noMethod]
  rfl

end Definitions

end ClientGem.Ruby
