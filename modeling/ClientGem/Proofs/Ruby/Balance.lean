import ClientGem.Proofs.Ruby.Layout
import ClientGem.Proofs.Text.Ascii
import ClientGem.Ruby.Name
import ClientGem.Ruby.Source

/-!
The nesting of generated code, read off its lines. Some lines open a block, and a line that says no
more than `end` closes the one opened last; what stands between the two is indented more than they
are.
-/

namespace ClientGem.Ruby

def indentation (line : List Char) : Nat :=
  (line.takeWhile (· == ' ')).length

def unindented (line : List Char) : List Char :=
  line.dropWhile (· == ' ')

def openings : List (List Char) :=
  ["module ".toList, "class ".toList, "def ".toList, "if ".toList, "case ".toList,
    "message = if ".toList]

def lastName (code : List Char) : List Char :=
  (code.dropLast.reverse.takeWhile isWordChar).reverse

/-- Blocks are also opened at the end of a line, with or without a name for what they are given. -/
def endsInDo (code : List Char) : Bool :=
  " do".toList.isSuffixOf code ||
    isPlainSymbol (String.ofList (lastName code)) &&
      (" do |".toList ++ lastName code ++ ['|']).isSuffixOf code

def opensBlock (code : List Char) : Bool :=
  openings.any (·.isPrefixOf code) || endsInDo code

def closesBlock (code : List Char) : Bool :=
  code == "end".toList

def continuesBlock (code : List Char) : Bool :=
  ["else".toList, "rescue".toList, "when".toList].contains (code.takeWhile isWordChar)

/-- Takes in code at an indentation, given the indentations of the blocks that are open, the
innermost first. -/
def nestCode (depth : Nat) (code : List Char) (blocks : List Nat) : Option (List Nat) :=
  match blocks with
  | [] => if closesBlock code then none else some (if opensBlock code then [depth] else [])
  | outer :: rest =>
    if closesBlock code then if depth = outer then some rest else none
    else if outer < depth ∨ continuesBlock code ∧ depth = outer then
      some (if opensBlock code then depth :: blocks else blocks)
    else none

def nest (blocks : List Nat) (line : String) : Option (List Nat) :=
  if (unindented line.toList).isEmpty then some blocks
  else nestCode (indentation line.toList) (unindented line.toList) blocks

def Leaves (blocks : List Nat) (lines : List String) (after : List Nat) : Prop :=
  lines.foldlM nest blocks = some after

/-- Every block is closed where it was opened, around lines that are indented more. -/
def IsBlockBalanced (content : String) : Prop :=
  Leaves [] (Text.lines content) []

instance (blocks : List Nat) (lines : List String) (after : List Nat) :
    Decidable (Leaves blocks lines after) :=
  inferInstanceAs (Decidable (_ = _))

instance (content : String) : Decidable (IsBlockBalanced content) :=
  inferInstanceAs (Decidable (Leaves _ _ _))

/-- Lines at a depth that leave open what was open around them. -/
def Fits (depth : Nat) (lines : List String) : Prop :=
  ∀ blocks, (∀ outer ∈ blocks.head?, outer < 2 * depth) → Leaves blocks lines blocks

structure IsPlain (text : String) : Prop where
  unbroken : '\n' ∉ text.toList
  opensNone : opensBlock (unindented text.toList) = false
  closesNone : closesBlock (unindented text.toList) = false

structure IsHeader (text : String) : Prop where
  unbroken : '\n' ∉ text.toList
  unindented : text.toList.head? ≠ some ' '
  opensOne : opensBlock (Ruby.unindented text.toList) = true

structure IsClause (text : String) : Prop extends IsPlain text where
  unindented : text.toList.head? ≠ some ' '
  continues : continuesBlock (Ruby.unindented text.toList) = true

section Decide

open Text (quickChars)

instance (text : String) : Decidable (IsPlain text) :=
  decidable_of_iff ('\n' ∉ quickChars text ∧ opensBlock (unindented (quickChars text)) = false ∧
      closesBlock (unindented (quickChars text)) = false) <| by
    rw [Text.quickChars_eq]
    exact ⟨fun ⟨unbroken, opens, closes⟩ => ⟨unbroken, opens, closes⟩,
      fun plain => ⟨plain.unbroken, plain.opensNone, plain.closesNone⟩⟩

instance (text : String) : Decidable (IsHeader text) :=
  decidable_of_iff ('\n' ∉ quickChars text ∧ (quickChars text).head? ≠ some ' ' ∧
      opensBlock (unindented (quickChars text)) = true) <| by
    rw [Text.quickChars_eq]
    exact ⟨fun ⟨unbroken, start, opens⟩ => ⟨unbroken, start, opens⟩,
      fun header => ⟨header.unbroken, header.unindented, header.opensOne⟩⟩

instance (text : String) : Decidable (IsClause text) :=
  decidable_of_iff (IsPlain text ∧ (quickChars text).head? ≠ some ' ' ∧
      continuesBlock (unindented (quickChars text)) = true) <| by
    rw [Text.quickChars_eq]
    exact ⟨fun ⟨plain, start, continues⟩ => ⟨plain, start, continues⟩,
      fun clause => ⟨clause.toIsPlain, clause.unindented, clause.continues⟩⟩

end Decide

structure Source.Balanced (source : Source) : Prop where
  unbroken : Source.Unbroken source
  fits : ∀ depth, Fits depth (Source.written depth source)

section Lines

theorem unindented_indent (depth : Nat) (text : String) :
    unindented (Source.indent depth text).toList = unindented text.toList := by
  unfold Source.indent unindented
  split
  · next empty => rw [String.isEmpty_iff.mp empty]
  · rw [String.toList_append, String.toList_ofList, List.dropWhile_append_of_pos]
    intro c member
    rw [List.eq_of_mem_replicate member]
    rfl

theorem indentation_indent (depth : Nat) {text : String} (nonempty : text ≠ "") :
    indentation (Source.indent depth text).toList = 2 * depth + indentation text.toList := by
  unfold Source.indent indentation
  rw [if_neg (by simpa using nonempty), String.toList_append, String.toList_ofList,
    List.takeWhile_append_of_pos, List.length_append, List.length_replicate]
  intro c member
  rw [List.eq_of_mem_replicate member]
  rfl

theorem unindented_of_head {text : List Char} (start : text.head? ≠ some ' ') :
    unindented text = text := by
  cases text with
  | nil => rfl
  | cons c text =>
    have notBlank : c ≠ ' ' := by simpa using start
    simp [unindented, notBlank]

theorem indentation_of_head {text : List Char} (start : text.head? ≠ some ' ') :
    indentation text = 0 := by
  cases text with
  | nil => rfl
  | cons c text =>
    have notBlank : c ≠ ' ' := by simpa using start
    simp [indentation, notBlank]

theorem nest_empty (blocks : List Nat) : nest blocks "" = some blocks :=
  rfl

theorem Leaves.nil (blocks : List Nat) : Leaves blocks [] blocks :=
  rfl

theorem Leaves.cons {blocks next after : List Nat} {line : String} {lines : List String}
    (first : nest blocks line = some next) (rest : Leaves next lines after) :
    Leaves blocks (line :: lines) after := by
  rw [Leaves, List.foldlM_cons, first]
  exact rest

theorem Leaves.append {blocks next after : List Nat} {lines others : List String}
    (first : Leaves blocks lines next) (rest : Leaves next others after) :
    Leaves blocks (lines ++ others) after := by
  rw [Leaves, List.foldlM_append, show lines.foldlM nest blocks = some next from first]
  exact rest

theorem leaves_nonblank {lines : List String} {blocks after : List Nat} :
    Leaves blocks (Source.nonblank lines) after ↔ Leaves blocks lines after := by
  induction lines generalizing blocks with
  | nil => rfl
  | cons line lines ih =>
    rw [Source.nonblank_cons]
    by_cases empty : line = ""
    · have dropped : Source.nonblank [line] = [] := by simp [Source.nonblank, empty]
      rw [dropped, List.nil_append, ih, Leaves, Leaves, List.foldlM_cons, empty, nest_empty]
      rfl
    · have kept : Source.nonblank [line] = [line] := by simp [Source.nonblank, empty]
      rw [kept, List.singleton_append, Leaves, Leaves, List.foldlM_cons, List.foldlM_cons]
      cases nest blocks line with
      | none => rfl
      | some next => exact ih

theorem nest_indent {depth : Nat} {text : String} {blocks : List Nat}
    (visible : (unindented text.toList).isEmpty = false) :
    nest blocks (Source.indent depth text) =
      nestCode (2 * depth + indentation text.toList) (unindented text.toList) blocks := by
  have nonempty : text ≠ "" := by
    rintro rfl
    cases visible
  rw [nest, unindented_indent, indentation_indent depth nonempty, visible]
  rfl

theorem nest_plain {depth : Nat} {text : String} (plain : IsPlain text) {blocks : List Nat}
    (outside : ∀ outer ∈ blocks.head?, outer < 2 * depth ∨
      outer = 2 * depth ∧ (0 < indentation text.toList ∨ continuesBlock (unindented text.toList))) :
    nest blocks (Source.indent depth text) = some blocks := by
  cases visible : (unindented text.toList).isEmpty with
  | true =>
    rw [nest, unindented_indent, visible]
    rfl
  | false =>
    rw [nest_indent visible]
    cases blocks with
    | nil => simp [nestCode, plain.opensNone, plain.closesNone]
    | cons outer blocks =>
      have deeper : outer < 2 * depth + indentation text.toList ∨
          continuesBlock (unindented text.toList) = true ∧
            2 * depth + indentation text.toList = outer := by
        rcases outside outer rfl with less | ⟨same, more | continues⟩
        · exact .inl (by omega)
        · exact .inl (by omega)
        · by_cases more : 0 < indentation text.toList
          · exact .inl (by omega)
          · exact .inr ⟨continues, by omega⟩
      simp [nestCode, plain.opensNone, plain.closesNone, deeper]

theorem IsHeader.visible {text : String} (header : IsHeader text) :
    (Ruby.unindented text.toList).isEmpty = false := by
  apply Bool.eq_false_iff.mpr
  intro empty
  have opens := header.opensOne
  rw [List.isEmpty_iff.mp empty] at opens
  exact absurd opens (by decide)

theorem IsHeader.closesNone {text : String} (header : IsHeader text) :
    closesBlock (Ruby.unindented text.toList) = false := by
  apply Bool.eq_false_iff.mpr
  intro closes
  have opens := header.opensOne
  rw [beq_iff_eq.mp closes] at opens
  exact absurd opens (by decide)

theorem nest_header {depth : Nat} {text : String} (header : IsHeader text) {blocks : List Nat}
    (outside : ∀ outer ∈ blocks.head?, outer < 2 * depth) :
    nest blocks (Source.indent depth text) = some (2 * depth :: blocks) := by
  rw [nest_indent header.visible, indentation_of_head header.unindented]
  cases blocks with
  | nil => simp [nestCode, header.closesNone, header.opensOne]
  | cons outer blocks =>
    have less := outside outer rfl
    simp [nestCode, header.closesNone, header.opensOne, less]

theorem nest_end (depth : Nat) (blocks : List Nat) :
    nest (2 * depth :: blocks) (Source.indent depth "end") = some blocks := by
  have inside : indentation "end".toList = 0 := by decide
  have closes : closesBlock (unindented "end".toList) = true := by decide
  rw [nest_indent (by decide), inside, nestCode, if_pos closes, if_pos (Nat.add_zero _)]

end Lines

section Fits

variable {depth : Nat}

theorem Fits.nil : Fits depth [] :=
  fun blocks _ => .nil blocks

theorem Fits.append {first second : List String} (one : Fits depth first)
    (other : Fits depth second) : Fits depth (first ++ second) :=
  fun blocks outside => (one blocks outside).append (other blocks outside)

theorem Fits.plain {text : String} (plain : IsPlain text) :
    Fits depth [Source.indent depth text] :=
  fun blocks outside => .cons (nest_plain plain fun outer member => .inl (outside outer member))
    (.nil blocks)

theorem leaves_within {texts : List String} {blocks : List Nat}
    (each : ∀ text ∈ texts, IsPlain text ∧
      (0 < indentation text.toList ∨ continuesBlock (unindented text.toList) = true)) :
    Leaves (2 * depth :: blocks) (texts.map (Source.indent depth)) (2 * depth :: blocks) := by
  induction texts with
  | nil => exact .nil _
  | cons text texts ih =>
    obtain ⟨plain, inside⟩ := each text List.mem_cons_self
    refine .cons (nest_plain plain ?_) (ih fun other member => each other (.tail _ member))
    rintro outer ⟨⟩
    exact .inr ⟨rfl, inside⟩

theorem Fits.leaves {lines : List String} {blocks : List Nat} (fits : Fits (depth + 1) lines) :
    Leaves (2 * depth :: blocks) lines (2 * depth :: blocks) := by
  apply fits
  rintro outer ⟨⟩
  omega

/-- A block whose header may go on over more lines, which are indented more. -/
theorem Fits.block {header : String} {more inside : List String} (opens : IsHeader header)
    (goesOn : ∀ text ∈ more, IsPlain text ∧ 0 < indentation text.toList)
    (fits : Fits (depth + 1) inside) :
    Fits depth ((header :: more).map (Source.indent depth) ++ inside ++
      [Source.indent depth "end"]) := by
  intro blocks outside
  have headed : Leaves blocks ((header :: more).map (Source.indent depth)) (2 * depth :: blocks) :=
    .cons (nest_header opens outside)
      (leaves_within fun text member => ⟨(goesOn text member).1, .inl (goesOn text member).2⟩)
  exact (headed.append fits.leaves).append (.cons (nest_end depth blocks) (.nil blocks))

theorem Fits.clause {header second : String} {body handler : List String} (opens : IsHeader header)
    (first : Fits (depth + 1) body) (between : IsClause second)
    (last : Fits (depth + 1) handler) :
    Fits depth ([Source.indent depth header] ++ body ++ [Source.indent depth second] ++ handler ++
      [Source.indent depth "end"]) := by
  intro blocks outside
  have headed : Leaves blocks [Source.indent depth header] (2 * depth :: blocks) :=
    .cons (nest_header opens outside) (.nil _)
  have continued : Leaves (2 * depth :: blocks) ([second].map (Source.indent depth))
      (2 * depth :: blocks) :=
    leaves_within fun text member => by
      rw [List.mem_singleton.mp member]
      exact ⟨between.toIsPlain, .inr between.continues⟩
  exact (((headed.append first.leaves).append continued).append last.leaves).append
    (.cons (nest_end depth blocks) (.nil blocks))

end Fits

namespace Source

theorem balanced_nil : Balanced [] :=
  ⟨trivial, fun _ => Fits.nil⟩

theorem Balanced.append {first second : Source} (one : Balanced first) (other : Balanced second) :
    Balanced (first ++ second) where
  unbroken := unbroken_append.mpr ⟨one.unbroken, other.unbroken⟩
  fits depth := by
    rw [written_append]
    exact (one.fits depth).append (other.fits depth)

theorem Balanced.cons {item : Item} {rest : Source} (first : Balanced [item])
    (others : Balanced rest) : Balanced (item :: rest) :=
  first.append others

theorem balanced_of_forall {source : Source} (each : ∀ item ∈ source, Balanced [item]) :
    Balanced source := by
  induction source with
  | nil => exact balanced_nil
  | cons item source ih =>
    exact (each item List.mem_cons_self).cons
      (ih fun other member => each other (List.mem_cons_of_mem _ member))

theorem balanced_blank : Balanced [.blank] :=
  ⟨⟨trivial, trivial⟩, fun _ => Fits.nil⟩

theorem balanced_eachAfterBlank {items : List Item} (each : ∀ item ∈ items, Balanced [item]) :
    Balanced (eachAfterBlank items) := by
  apply balanced_of_forall
  intro item member
  obtain ⟨other, inItems, inPair⟩ := List.mem_flatMap.mp member
  simp only [List.mem_cons, List.not_mem_nil, or_false] at inPair
  rcases inPair with rfl | rfl
  · exact balanced_blank
  · exact each item inItems

theorem balanced_line {text : String} (plain : IsPlain text) : Balanced [.line text] where
  unbroken := ⟨plain.unbroken, trivial⟩
  fits _ := Fits.plain plain

theorem balanced_lines {texts : List String} (each : ∀ text ∈ texts, IsPlain text) :
    Balanced [.lines texts] where
  unbroken := ⟨trivial, trivial⟩
  fits depth := by
    rw [written, Item.written, written, List.append_nil]
    induction texts with
    | nil => exact Fits.nil
    | cons text texts ih =>
      have plain := each text List.mem_cons_self
      rw [List.flatMap_cons, Text.lines_of_unbroken plain.unbroken]
      exact (Fits.plain plain).append (ih fun other member => each other (.tail _ member))

theorem balanced_map_line {texts : List String} (each : ∀ text ∈ texts, IsPlain text) :
    Balanced (texts.map .line) := by
  apply balanced_of_forall
  intro item member
  obtain ⟨text, inTexts, rfl⟩ := List.mem_map.mp member
  exact balanced_line (each text inTexts)

theorem balanced_block_lines {header first : String} {more : List String} {body : Source}
    (cut : Text.lines header = first :: more) (opens : IsHeader first)
    (goesOn : ∀ text ∈ more, IsPlain text ∧ 0 < indentation text.toList)
    (inside : Balanced body) : Balanced [.block header body] where
  unbroken := ⟨inside.unbroken, trivial⟩
  fits depth := by
    rw [written, Item.written, cut, written, List.append_nil]
    exact Fits.block opens goesOn (inside.fits (depth + 1))

theorem balanced_block {header : String} {body : Source} (opens : IsHeader header)
    (inside : Balanced body) : Balanced [.block header body] :=
  balanced_block_lines (Text.lines_of_unbroken opens.unbroken) opens nofun inside

theorem balanced_clause {header second : String} {body handler : Source} (opens : IsHeader header)
    (first : Balanced body) (between : IsClause second) (last : Balanced handler) :
    Balanced [.clause header body second handler] where
  unbroken := ⟨⟨opens.unbroken, first.unbroken, between.unbroken, last.unbroken⟩, trivial⟩
  fits depth := by
    rw [written, Item.written, written, List.append_nil]
    exact Fits.clause opens (first.fits (depth + 1)) between (last.fits (depth + 1))

theorem balanced_bracket {header : String} {texts : List String} (opens : IsHeader header)
    (each : ∀ text ∈ texts, IsPlain text ∧
      (0 < indentation text.toList ∨ continuesBlock (unindented text.toList) = true)) :
    Balanced ((header :: texts ++ ["end"]).map .line) where
  unbroken := by
    have all : ∀ text ∈ header :: texts ++ ["end"], '\n' ∉ text.toList := by
      simp only [List.cons_append, List.forall_mem_cons, List.forall_mem_append]
      exact ⟨opens.unbroken, fun text member => (each text member).1.unbroken, by decide,
        List.forall_mem_nil _⟩
    generalize header :: texts ++ ["end"] = texts at all
    induction texts with
    | nil => trivial
    | cons text texts ih =>
      exact ⟨all text List.mem_cons_self, ih fun other member => all other (.tail _ member)⟩
  fits depth := by
    have lines : ∀ texts : List String,
        written depth (texts.map .line) = texts.map (indent depth) := by
      intro texts
      induction texts with
      | nil => rfl
      | cons text texts ih =>
        rw [List.map_cons, written, ih]
        rfl
    intro blocks outside
    rw [lines, List.map_append, List.map_cons]
    exact (Leaves.cons (nest_header opens outside) (leaves_within each)).append
      (.cons (nest_end depth blocks) (.nil blocks))

end Source

mutual

def Item.isBalanced : Item → Bool
  | .line text => decide (IsPlain text)
  | .lines texts => texts.all fun text => decide (IsPlain text)
  | .blank => true
  | .block header body => decide (IsHeader header) && Source.isBalanced body
  | .clause header body second handler =>
    decide (IsHeader header) && Source.isBalanced body && decide (IsClause second) &&
      Source.isBalanced handler

def Source.isBalanced : List Item → Bool
  | [] => true
  | item :: rest => item.isBalanced && Source.isBalanced rest

end

namespace Source

mutual

theorem balanced_of_item {item : Item} (checked : item.isBalanced = true) : Balanced [item] := by
  cases item with
  | line text =>
    exact balanced_line (of_decide_eq_true checked)
  | lines texts =>
    exact balanced_lines fun text member =>
      of_decide_eq_true (List.all_eq_true.mp checked text member)
  | blank => exact balanced_blank
  | block header body =>
    rw [Item.isBalanced, Bool.and_eq_true] at checked
    exact balanced_block (of_decide_eq_true checked.1) (balanced_of_isBalanced checked.2)
  | clause header body second handler =>
    simp only [Item.isBalanced, Bool.and_eq_true, decide_eq_true_eq] at checked
    obtain ⟨⟨⟨opens, first⟩, between⟩, last⟩ := checked
    exact balanced_clause opens (balanced_of_isBalanced first) between
      (balanced_of_isBalanced last)

/-- Sources that nothing is put into can be checked. -/
theorem balanced_of_isBalanced {source : Source} (checked : isBalanced source = true) :
    Balanced source := by
  cases source with
  | nil => exact balanced_nil
  | cons item rest =>
    rw [Source.isBalanced, Bool.and_eq_true] at checked
    exact (balanced_of_item checked.1).cons (balanced_of_isBalanced checked.2)

end

/-- Where something is put into a source, the items that are fixed can still be checked, one by
one. -/
theorem Balanced.after {item : Item} {rest : Source} (checked : item.isBalanced = true)
    (others : Balanced rest) : Balanced (item :: rest) :=
  (balanced_of_item checked).cons others

theorem Balanced.afterBlank {rest : Source} (others : Balanced rest) :
    Balanced (.blank :: rest) :=
  balanced_blank.cons others

theorem Balanced.afterLine {text : String} {rest : Source} (plain : IsPlain text)
    (others : Balanced rest) : Balanced (.line text :: rest) :=
  (balanced_line plain).cons others

def opensOver : List String → Bool
  | first :: more => decide (IsHeader first) &&
      more.all fun text => decide (IsPlain text) && 0 < indentation (Text.quickChars text)
  | [] => false

theorem balanced_block_over {header : String} {body : Source}
    (opens : opensOver (Text.lines header) = true) (inside : Balanced body) :
    Balanced [.block header body] := by
  cases cut : Text.lines header with
  | nil =>
    rw [cut] at opens
    cases opens
  | cons first more =>
    simp only [cut, opensOver, Text.quickChars_eq, Bool.and_eq_true, decide_eq_true_eq,
      List.all_eq_true] at opens
    exact balanced_block_lines cut opens.1 opens.2 inside

def isBracket : List String → Bool
  | header :: more => decide (IsHeader header) && more.getLast? == some "end" &&
      more.dropLast.all fun text => decide (IsPlain text) &&
        (0 < indentation (Text.quickChars text) ||
          continuesBlock (unindented (Text.quickChars text)))
  | [] => false

theorem balanced_of_isBracket {texts : List String} (checked : isBracket texts = true) :
    Balanced (texts.map .line) := by
  cases texts with
  | nil => cases checked
  | cons header more =>
    simp only [isBracket, Text.quickChars_eq, Bool.and_eq_true, Bool.or_eq_true,
      decide_eq_true_eq, beq_iff_eq, List.all_eq_true] at checked
    obtain ⟨⟨opens, ends⟩, inside⟩ := checked
    obtain ⟨before, rfl⟩ := List.getLast?_eq_some_iff.mp ends
    rw [List.dropLast_concat] at inside
    exact balanced_bracket opens inside

/-- Balanced sources are laid out as balanced texts. -/
theorem Balanced.isBlockBalanced {source : Source} (balanced : Balanced source) :
    IsBlockBalanced source.layout := by
  unfold IsBlockBalanced
  rw [← leaves_nonblank, nonblank_lines_layout balanced.unbroken, leaves_nonblank]
  exact balanced.fits 0 [] nofun

/-- A line at the indentation of its block, which it does not continue, is refused. -/
example : ¬IsBlockBalanced "def reset\n@cache = nil\nend\n" := by decide +kernel

end Source

end ClientGem.Ruby
