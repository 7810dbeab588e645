import ClientGem.Proofs.PathTemplate.Grammar

/-!
The parser reads every path, and reads it as the grammar does. What it carries along is text that
has been passed but given out in no segment yet; the invariant says which texts can be carried.
-/

namespace ClientGem.PathTemplate

/-- No placeholder can be completed by a brace behind the text. -/
def IsClosed (text : List Char) : Prop :=
  ∀ name, '\x7b' ∉ name → '\x7d' ∉ name → ¬ '\x7b' :: name <:+ text

def held (before : List Char) : Option (List Char) → List Char
  | none => before.reverse
  | some name => before.reverse ++ '\x7b' :: name.reverse

def Holds (before : List Char) : Option (List Char) → Prop
  | none => IsPlain before.reverse ∧ IsClosed before.reverse
  | some name => IsPlain before.reverse ∧ '\x7b' ∉ name ∧ '\x7d' ∉ name

theorem isPlain_concat {text : List Char} {c : Char} (plain : IsPlain text)
    (unclosed : c = '\x7d' → ∀ name, IsName name → ¬ '\x7b' :: name <:+ text) :
    IsPlain (text ++ [c]) := by
  intro name isName occurs
  rcases List.infix_concat_iff.mp occurs with atEnd | within
  · rcases List.suffix_concat_iff.mp atEnd with empty | ⟨opened, same, isSuffix⟩
    · simp [placeholderText] at empty
    · obtain ⟨rfl, closing⟩ := List.append_inj' same rfl
      exact unclosed (List.cons.inj closing).1.symm name isName isSuffix
  · exact plain name isName within

theorem isPlain_append {text more : List Char} (plain : IsPlain text)
    (no_close : '\x7d' ∉ more) : IsPlain (text ++ more) := by
  induction more generalizing text with
  | nil => simpa using plain
  | cons c more ih =>
    rw [List.mem_cons, not_or] at no_close
    have longer : IsPlain (text ++ [c]) :=
      isPlain_concat plain (fun closing => absurd closing.symm no_close.1)
    simpa using ih longer no_close.2

/-- A brace that is open at the end of a text was opened by the last character, or before it. -/
theorem open_suffix_concat {name text : List Char} {c : Char}
    (isSuffix : '\x7b' :: name <:+ text ++ [c]) :
    (name = [] ∧ c = '\x7b') ∨ ∃ start, name = start ++ [c] ∧ '\x7b' :: start <:+ text := by
  rcases List.suffix_concat_iff.mp isSuffix with empty | ⟨start, same, inText⟩
  · cases empty
  · cases start with
    | nil =>
      obtain ⟨opening, empty⟩ := List.cons.inj same
      exact .inl ⟨empty, opening.symm⟩
    | cons d start =>
      obtain ⟨rfl, nameEq⟩ := List.cons.inj same
      exact .inr ⟨start, nameEq, inText⟩

theorem isClosed_nil : IsClosed [] := by
  intro name _ _ isSuffix
  simpa using List.eq_nil_of_suffix_nil isSuffix

theorem isClosed_concat {text : List Char} {c : Char} (closed : IsClosed text)
    (ne_open : c ≠ '\x7b') : IsClosed (text ++ [c]) := by
  intro name no_open no_close isSuffix
  rcases open_suffix_concat isSuffix with ⟨_, opening⟩ | ⟨start, rfl, inText⟩
  · exact ne_open opening
  · simp only [List.mem_append, not_or] at no_open no_close
    exact closed start no_open.1 no_close.1 inText

theorem isClosed_close (text : List Char) : IsClosed (text ++ ['\x7d']) := by
  intro name _ no_close isSuffix
  rcases open_suffix_concat isSuffix with ⟨_, opening⟩ | ⟨start, rfl, _⟩
  · exact absurd opening (by decide)
  · exact no_close (by simp)

theorem isPlain_emptyBraces {text : List Char} (plain : IsPlain text) :
    IsPlain (text ++ ['\x7b'] ++ ['\x7d']) := by
  apply isPlain_concat (isPlain_append plain (by decide))
  intro _ name isName isSuffix
  rcases open_suffix_concat isSuffix with ⟨empty, _⟩ | ⟨start, rfl, _⟩
  · exact isName.ne_nil empty
  · exact isName.no_open (by simp)

theorem Holds.plain {before : List Char} {name : Option (List Char)}
    (holds : Holds before name) : IsPlain (held before name) := by
  cases name with
  | none => exact holds.1
  | some name =>
    refine isPlain_append holds.1 ?_
    simpa using holds.2.2

theorem isSegmentation_literal? {text : List Char} (plain : IsPlain text) :
    IsSegmentation text (literal? text) := by
  cases text with
  | nil => exact ⟨rfl, by simp [literal?], .nil⟩
  | cons c text =>
    refine ⟨by simp [literal?, segmentText], fun segment member => ?_, .singleton _⟩
    obtain rfl : segment = .literal (c :: text) := List.mem_singleton.mp member
    exact ⟨List.cons_ne_nil c text, plain⟩

theorem IsSegmentation.append_placeholder {before name after : List Char}
    {left right : List Segment} (reading : IsSegmentation before left) (isName : IsName name)
    (reading' : IsSegmentation after right) :
    IsSegmentation (before ++ placeholderText name ++ after)
      (left ++ .placeholder name :: right) where
  text := by simp [segmentText, reading.text, reading'.text]
  wellFormed := by
    intro segment member
    rcases List.mem_append.mp member with earlier | behind
    · exact reading.wellFormed segment earlier
    · rcases List.mem_cons.mp behind with rfl | later
      · exact isName
      · exact reading'.wellFormed segment later
  separated := by
    refine List.isChain_append.mpr ⟨reading.separated, ?_, ?_⟩
    · refine List.isChain_cons.mpr ⟨?_, reading'.separated⟩
      intro next _ unnamed
      cases unnamed
    · simp [Separated, Segment.name?]

/-- The parser never loses text it has passed, and never gives out what is no segment. -/
theorem parseFrom_isSegmentation (before : List Char) (name : Option (List Char))
    (rest : List Char) (holds : Holds before name) :
    IsSegmentation (held before name ++ rest) (parseFrom before name rest) := by
  fun_induction parseFrom before name rest with
  | case1 before => simpa [held] using isSegmentation_literal? holds.plain
  | case2 before name =>
    simpa [held] using isSegmentation_literal? holds.plain
  | case3 before rest ih =>
    simpa [held] using ih ⟨holds.1, by simp, by simp⟩
  | case4 before c rest ne_open ih =>
    have plain : IsPlain (before.reverse ++ [c]) :=
      isPlain_concat holds.1 (fun _ name isName => holds.2 name isName.no_open isName.no_close)
    have closed : IsClosed (before.reverse ++ [c]) := isClosed_concat holds.2 ne_open
    simpa [held] using ih (by simpa [Holds] using ⟨plain, closed⟩)
  | case5 before rest name ih =>
    have plain : IsPlain (before.reverse ++ '\x7b' :: name.reverse) := holds.plain
    simpa [held] using ih (by simpa [Holds] using plain)
  | case6 before rest name empty ne_open ih =>
    have empty : name = [] := by simpa using empty
    subst empty
    have plain := isPlain_emptyBraces holds.1
    have closed := isClosed_close (before.reverse ++ ['\x7b'])
    have next : Holds ('\x7d' :: '\x7b' :: before) none := by
      simp only [Holds, List.reverse_cons]
      exact ⟨plain, closed⟩
    simpa [held] using ih next
  | case7 before rest name ne_nil ne_open ih =>
    have isName : IsName name.reverse :=
      ⟨by simpa using ne_nil, by simpa using holds.2.1, by simpa using holds.2.2⟩
    have after : IsSegmentation rest (parseFrom [] none rest) :=
      by simpa [held] using ih ⟨isPlain_nil, isClosed_nil⟩
    simpa [held, placeholderText] using
      (isSegmentation_literal? holds.1).append_placeholder isName after
  | case8 before c rest name ne_open ne_close ih =>
    have inside : '\x7b' ∉ c :: name ∧ '\x7d' ∉ c :: name := by
      simp only [List.mem_cons, not_or]
      exact ⟨⟨fun same => ne_open same.symm, holds.2.1⟩, fun same => ne_close same.symm, holds.2.2⟩
    simpa [held] using ih ⟨holds.1, inside⟩

theorem isSegmentation_parse (path : String) : IsSegmentation path.toList (parse path) := by
  have reading := parseFrom_isSegmentation [] none path.toList ⟨isPlain_nil, isClosed_nil⟩
  simpa [held, parse] using reading

/-- Parsing finds the one and only reading of a path: the segments spell the path, placeholders
have names that are not empty and hold no brace, literal segments are not empty and hold no
placeholder, and no two of them are neighbours. -/
theorem parse_eq_iff_isSegmentation (path : String) (segments : List Segment) :
    parse path = segments ↔ IsSegmentation path.toList segments := by
  constructor
  · rintro rfl
    exact isSegmentation_parse path
  · intro reading
    exact (isSegmentation_parse path).unique reading

example : parse "x/\x7ba\x7bb\x7d\x7b\x7d" =
    [.literal "x/\x7ba".toList, .placeholder "b".toList, .literal "\x7b\x7d".toList] := by decide

end ClientGem.PathTemplate
