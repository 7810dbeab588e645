import ClientGem.PathTemplate

/-!
How the body of a string literal in double quotes is read. A backslash takes the special meaning
from the character behind it, and what stands between a brace behind a number sign and the next
closing brace is interpolated.
-/

namespace ClientGem.Ruby.StringBody

def isSpecial (c : Char) : Bool :=
  c == '\\' || c == '"' || c == '#'

def addChar (c : Char) : List Segment → List Segment
  | .literal text :: rest => .literal (c :: text) :: rest
  | segments => .literal [c] :: segments

def addText (text : List Char) (segments : List Segment) : List Segment :=
  text.foldr addChar segments

inductive State where
  | text
  | escape
  | numberSign
  /-- Inside an interpolation, of which the last character read comes first. -/
  | inside (name : List Char)

/-- There is no reading when the string would end inside the body, when a number sign stands for
itself without a backslash, or when something is left open at the end. -/
def readFrom : State → List Char → Option (List Segment)
  | .text, [] => some []
  | .escape, [] => none
  | .numberSign, [] => none
  | .inside _, [] => none
  | .text, c :: rest =>
    if c = '\\' then readFrom .escape rest
    else if c = '#' then readFrom .numberSign rest
    else if c = '"' then none
    else (readFrom .text rest).map (addChar c)
  | .escape, c :: rest =>
    if isSpecial c then (readFrom .text rest).map (addChar c) else none
  | .numberSign, c :: rest =>
    if c = '\x7b' then readFrom (.inside []) rest else none
  | .inside name, c :: rest =>
    if c = '\x7d' then (readFrom .text rest).map (.placeholder name.reverse :: ·)
    else readFrom (.inside (c :: name)) rest

def read (body : List Char) : Option (List Segment) :=
  readFrom .text body

theorem read_escape_cons (c : Char) (rest : List Char) :
    read ((if needsEscape c then ['\\', c] else [c]) ++ rest) = (read rest).map (addChar c) := by
  by_cases special : needsEscape c = true
  · have isSpecial : isSpecial c = true := special
    simp [special, read, readFrom, isSpecial]
  · simp only [needsEscape, Bool.or_eq_true, beq_iff_eq, not_or] at special
    simp [needsEscape, special, read, readFrom]

/-- Escaped text is read as it was before, whatever comes behind it. -/
theorem read_escapeChars (text rest : List Char) :
    read (escapeChars text ++ rest) = (read rest).map (addText text) := by
  induction text with
  | nil =>
    have unchanged : addText [] = id := rfl
    simp [escapeChars, unchanged]
  | cons c text ih =>
    have unfolded : escapeChars (c :: text) ++ rest =
        (if needsEscape c then ['\\', c] else [c]) ++ (escapeChars text ++ rest) := by
      simp [escapeChars]
    rw [unfolded, read_escape_cons, ih, Option.map_map]
    rfl

theorem readFrom_inside (done name rest : List Char) (no_close : '\x7d' ∉ name) :
    readFrom (.inside done) (name ++ '\x7d' :: rest) =
      (read rest).map (.placeholder (done.reverse ++ name) :: ·) := by
  induction name generalizing done with
  | nil => simp [readFrom, read]
  | cons c name ih =>
    simp only [List.mem_cons, not_or] at no_close
    have ne_close : c ≠ '\x7d' := fun same => no_close.1 same.symm
    simp [readFrom, ne_close, ih _ no_close.2]

theorem read_interpolation (name rest : List Char) (no_close : '\x7d' ∉ name) :
    read (PathTemplate.interpolateSegment (.placeholder name) ++ rest) =
      (read rest).map (.placeholder name :: ·) := by
  have inside := readFrom_inside [] name rest no_close
  simpa [PathTemplate.interpolateSegment, read, readFrom] using inside

theorem addText_cons {text : List Char} {segments : List Segment} (ne_nil : text ≠ [])
    (separate : ∀ other rest, segments ≠ .literal other :: rest) :
    addText text segments = .literal text :: segments := by
  induction text with
  | nil => exact absurd rfl ne_nil
  | cons c text ih =>
    cases text with
    | nil =>
      cases segments with
      | nil => rfl
      | cons segment segments =>
        cases segment with
        | literal other => exact absurd rfl (separate other segments)
        | placeholder name => rfl
    | cons d text =>
      have later := ih (List.cons_ne_nil d text)
      simp only [addText, List.foldr_cons] at later ⊢
      rw [later]
      rfl

end ClientGem.Ruby.StringBody
