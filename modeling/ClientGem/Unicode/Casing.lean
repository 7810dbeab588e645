import ClientGem.Unicode.CaseTable
import ClientGem.Unicode.Properties

/-!
Full upper case of a character and full lower case of a text. The one mapping that depends on its
surroundings is the capital sigma, which has a form of its own at the end of a word.
-/

namespace ClientGem.Unicode

def CaseRun.apply (run : CaseRun) (n : Nat) : Option Nat :=
  if run.first ≤ n ∧ n ≤ run.last ∧ (n - run.first) % run.step = 0 then
    some (run.image + (n - run.first))
  else none

def mapCase (sequences : List (Nat × List Nat)) (runs : List CaseRun) (c : Char) : List Char :=
  match sequences.lookup c.toNat with
  | some image => image.map Char.ofNat
  | none =>
    match runs.findSome? (·.apply c.toNat) with
    | some image => [Char.ofNat image]
    | none => [c]

def toUpper (c : Char) : List Char :=
  if c.toNat < 0x80 then [c.toUpper] else mapCase upperSequences upperRuns c

def toLower (c : Char) : List Char :=
  if c.toNat < 0x80 then [c.toLower] else mapCase lowerSequences lowerRuns c

def meetsCased (cs : List Char) : Bool :=
  match cs.dropWhile caseIgnorableRanges.contains with
  | [] => false
  | c :: _ => casedRanges.contains c

/-- `before` holds the characters already passed, the nearest first. -/
def lowerFrom (before : List Char) : List Char → List Char
  | [] => []
  | c :: rest =>
    let image :=
      if c = 'Σ' then
        if meetsCased before && !meetsCased rest then ['ς'] else ['σ']
      else toLower c
    image ++ lowerFrom (c :: before) rest

def lowercase (s : String) : String :=
  String.ofList (lowerFrom [] s.toList)

theorem mapCase_ne_nil (sequences : List (Nat × List Nat)) (runs : List CaseRun) (c : Char)
    (full : ∀ entry ∈ sequences, entry.2 ≠ []) : mapCase sequences runs c ≠ [] := by
  unfold mapCase
  split
  · next image found =>
    intro h
    have mem : (c.toNat, image) ∈ sequences := by
      induction sequences with
      | nil => simp at found
      | cons entry rest ih =>
        rw [List.lookup_cons] at found
        by_cases e : c.toNat == entry.1
        · simp only [e] at found
          have hk := eq_of_beq e
          simp only [Option.some.injEq] at found
          simp [hk, ← found]
        · simp only [e] at found
          exact List.mem_cons_of_mem _ (ih (fun x hx => full x (List.mem_cons_of_mem _ hx)) found)
    exact full _ mem (by simpa using h)
  · split <;> simp

theorem toUpper_ne_nil (c : Char) : toUpper c ≠ [] := by
  unfold toUpper
  split
  · simp
  · exact mapCase_ne_nil _ _ _ (by decide)

end ClientGem.Unicode
