import ClientGem.PathTemplate
import ClientGem.Proofs.Text.Split
import Mathlib.Data.List.Chain

/-!
The grammar of paths with placeholders, stated without the parser: what a segment looks like in a
path, which segments may stand there, and that no path can be read in two ways.
-/

namespace ClientGem.PathTemplate

structure IsName (name : List Char) : Prop where
  ne_nil : name ≠ []
  no_open : '\x7b' ∉ name
  no_close : '\x7d' ∉ name

/-- No placeholder occurs anywhere in the text; single braces may. -/
def IsPlain (text : List Char) : Prop :=
  ∀ name, IsName name → ¬ placeholderText name <:+: text

def segmentText : Segment → List Char
  | .literal text => text
  | .placeholder name => placeholderText name

def WellFormed : Segment → Prop
  | .literal text => text ≠ [] ∧ IsPlain text
  | .placeholder name => IsName name

def Separated (first second : Segment) : Prop :=
  Segment.name? first = none → Segment.name? second ≠ none

structure IsSegmentation (path : List Char) (segments : List Segment) : Prop where
  text : segments.flatMap segmentText = path
  wellFormed : ∀ segment ∈ segments, WellFormed segment
  separated : segments.IsChain Separated

def EndsOrOpens (rest : List Char) : Prop :=
  rest = [] ∨ ∃ name more, IsName name ∧ rest = placeholderText name ++ more

theorem EndsOrOpens.head_eq {c : Char} {rest : List Char} (follows : EndsOrOpens (c :: rest)) :
    c = '\x7b' := by
  rcases follows with ended | ⟨name, more, _, opened⟩
  · cases ended
  · simp only [placeholderText, List.cons_append, List.cons.injEq] at opened
    exact opened.1

/-- A text without a placeholder cannot be prolonged into one that follows it. -/
theorem eq_nil_of_follows {text more rest : List Char} (plain : IsPlain (text ++ more))
    (first : EndsOrOpens (more ++ rest)) (second : EndsOrOpens rest) : more = [] := by
  rcases first with ended | ⟨name, tail, isName, opened⟩
  · exact (List.append_eq_nil_iff.mp ended).1
  · cases more with
    | nil => rfl
    | cons c more =>
      simp only [placeholderText, List.cons_append, List.append_assoc, List.nil_append,
        List.cons.injEq] at opened
      obtain ⟨rfl, inside⟩ := opened
      exfalso
      rcases List.append_eq_append_iff.mp inside with
        ⟨middle, nameEq, restEq⟩ | ⟨middle, moreEq, closed⟩
      · -- the text ends inside the placeholder, where nothing can open
        have head : ∀ c rest', rest = c :: rest' → c = '\x7b' := by
          rintro c rest' rfl
          exact second.head_eq
        cases middle with
        | nil => exact absurd (head _ _ restEq) (by decide)
        | cons d middle =>
          have same := head _ _ restEq
          exact isName.no_open (by rw [nameEq, ← same]; simp)
      · cases middle with
        | nil =>
          rw [List.nil_append] at closed
          rw [← closed] at second
          exact absurd second.head_eq (by decide)
        | cons d middle =>
          simp only [List.cons_append, List.cons.injEq] at closed
          obtain ⟨rfl, -⟩ := closed
          exact plain name isName ⟨text, middle, by simp [placeholderText, moreEq]⟩

theorem plain_append_inj {first second rest rest' : List Char} (plain : IsPlain first)
    (plain' : IsPlain second) (follows : EndsOrOpens rest) (follows' : EndsOrOpens rest')
    (same : first ++ rest = second ++ rest') : first = second ∧ rest = rest' := by
  rcases List.append_eq_append_iff.mp same with ⟨more, rfl, rfl⟩ | ⟨more, rfl, rfl⟩
  · have none := eq_nil_of_follows plain' follows follows'
    subst none
    simp
  · have none := eq_nil_of_follows plain follows' follows
    subst none
    simp

theorem placeholder_append_inj {first second rest rest' : List Char} (isName : IsName first)
    (isName' : IsName second)
    (same : placeholderText first ++ rest = placeholderText second ++ rest') :
    first = second ∧ rest = rest' := by
  simp only [placeholderText, List.cons_append, List.append_assoc, List.nil_append,
    List.cons.injEq, true_and] at same
  exact Text.append_cons_inj isName.no_close isName'.no_close same

theorem isPlain_nil : IsPlain [] := by
  intro name _ occurs
  simpa [placeholderText] using List.eq_nil_of_infix_nil occurs

theorem WellFormed.text_ne_nil {segment : Segment} (wellFormed : WellFormed segment) :
    segmentText segment ≠ [] := by
  cases segment with
  | literal text => exact wellFormed.1
  | placeholder name => simp [segmentText, placeholderText]

namespace IsSegmentation

theorem head {path : List Char} {segment : Segment} {segments : List Segment}
    (reading : IsSegmentation path (segment :: segments)) : WellFormed segment :=
  reading.wellFormed segment List.mem_cons_self

theorem tail {path : List Char} {segment : Segment} {segments : List Segment}
    (reading : IsSegmentation path (segment :: segments)) :
    IsSegmentation (segments.flatMap segmentText) segments where
  text := rfl
  wellFormed := fun other member => reading.wellFormed other (List.mem_cons_of_mem _ member)
  separated := (List.isChain_cons.mp reading.separated).2

theorem no_literals {path text other : List Char} {segments : List Segment}
    (reading : IsSegmentation path (.literal text :: .literal other :: segments)) : False := by
  have separated : Separated (.literal text) (.literal other) :=
    (List.isChain_cons_cons.mp reading.separated).1
  exact separated rfl rfl

theorem follows {path text : List Char} {segments : List Segment}
    (reading : IsSegmentation path (.literal text :: segments)) :
    EndsOrOpens (segments.flatMap segmentText) := by
  cases segments with
  | nil => exact .inl rfl
  | cons next segments =>
    cases next with
    | literal other => exact reading.no_literals.elim
    | placeholder name => exact .inr ⟨name, segments.flatMap segmentText, reading.tail.head, rfl⟩

theorem eq_nil_of_empty {segments : List Segment} (reading : IsSegmentation [] segments) :
    segments = [] := by
  cases segments with
  | nil => rfl
  | cons segment segments =>
    have empty := reading.text
    rw [List.flatMap_cons, List.append_eq_nil_iff] at empty
    exact absurd empty.1 reading.head.text_ne_nil

theorem literal_ne_placeholder {path text name : List Char} {segments segments' : List Segment}
    (reading : IsSegmentation path (.literal text :: segments))
    (reading' : IsSegmentation path (.placeholder name :: segments')) : False := by
  have ⟨ne_nil, plain⟩ : text ≠ [] ∧ IsPlain text := reading.head
  have opens : EndsOrOpens (placeholderText name ++ segments'.flatMap segmentText) :=
    .inr ⟨name, _, reading'.head, rfl⟩
  have same := reading'.text.trans reading.text.symm
  exact ne_nil (plain_append_inj isPlain_nil plain opens reading.follows same).1.symm

/-- No path has two readings. -/
theorem unique {path : List Char} {first second : List Segment}
    (reading : IsSegmentation path first) (reading' : IsSegmentation path second) :
    first = second := by
  induction first generalizing path second with
  | nil =>
    have empty : path = [] := reading.text.symm
    subst empty
    exact reading'.eq_nil_of_empty.symm
  | cons segment segments ih =>
    cases second with
    | nil =>
      have empty : path = [] := reading'.text.symm
      subst empty
      exact reading.eq_nil_of_empty
    | cons segment' segments' =>
      have same := reading.text.trans reading'.text.symm
      simp only [List.flatMap_cons] at same
      cases segment with
      | literal text =>
        cases segment' with
        | literal text' =>
          obtain ⟨rfl, rest⟩ : text = text' ∧ _ :=
            plain_append_inj reading.head.2 reading'.head.2 reading.follows reading'.follows same
          rw [ih reading.tail (rest ▸ reading'.tail)]
        | placeholder name' => exact (literal_ne_placeholder reading reading').elim
      | placeholder name =>
        cases segment' with
        | literal text' => exact (literal_ne_placeholder reading' reading).elim
        | placeholder name' =>
          obtain ⟨rfl, rest⟩ : name = name' ∧ _ :=
            placeholder_append_inj reading.head reading'.head same
          rw [ih reading.tail (rest ▸ reading'.tail)]

end IsSegmentation

end ClientGem.PathTemplate
