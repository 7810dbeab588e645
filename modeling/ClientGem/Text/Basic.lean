/-!
Texts cut at separators, one text put in place of another, and words compared without regard to the
case of the ASCII letters.
-/

namespace ClientGem.Text

/-- The pieces between the characters that satisfy `p`; there is always at least one. -/
def splitChars (p : Char → Bool) : List Char → List (List Char)
  | [] => [[]]
  | c :: rest =>
    if p c then [] :: splitChars p rest
    else
      match splitChars p rest with
      | [] => [[c]]
      | piece :: pieces => (c :: piece) :: pieces

def split (p : Char → Bool) (s : String) : List String :=
  (splitChars p s.toList).map String.ofList

def lines (s : String) : List String :=
  split (· == '\n') s

/-- Every occurrence of `pattern`, searched from the left and without overlap, becomes `image`. -/
def replaceChars (pattern image : List Char) (s : List Char) : List Char :=
  match s with
  | [] => []
  | c :: rest =>
    if pattern.isEmpty then c :: rest
    else if pattern.isPrefixOf (c :: rest) then
      image ++ replaceChars pattern image ((c :: rest).drop (max 1 pattern.length))
    else c :: replaceChars pattern image rest
termination_by s.length
decreasing_by all_goals simp; try omega

theorem splitChars_ne_nil (p : Char → Bool) (s : List Char) : splitChars p s ≠ [] := by
  cases s with
  | nil => simp [splitChars]
  | cons c rest =>
    unfold splitChars
    split
    · simp
    · split <;> simp

def foldCase (s : String) : List Char :=
  s.toList.map Char.toLower

def sameWord (s t : String) : Bool :=
  foldCase s == foldCase t

end ClientGem.Text
