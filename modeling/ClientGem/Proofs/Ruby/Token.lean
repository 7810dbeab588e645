import ClientGem.Proofs.Ruby.StringBody
import ClientGem.Ruby.Source

/-!
Expressions read as tokens: words, the text of string literals, and the marks between them. A
literal is read back as its text, whatever stands around it.
-/

namespace ClientGem.Ruby

inductive Token where
  | word (name : String)
  /-- A string literal, by its text. -/
  | text (content : String)
  | mark (c : Char)
deriving DecidableEq, Repr

namespace Token

/-- Where in an expression a character is read, with the last character read so far first. -/
inductive State where
  | code (name : List Char)
  | text (content : List Char)
  | escape (content : List Char)
deriving DecidableEq

def endWord (name : List Char) : List Token :=
  if name.isEmpty then [] else [.word (String.ofList name.reverse)]

@[simp]
theorem endWord_nil : endWord [] = [] :=
  rfl

/-- A number sign must be escaped in a string, since it could begin an interpolation. -/
def step : State → Char → Option (List Token × State)
  | .code name, c =>
    if isWordChar c then some ([], .code (c :: name))
    else if c = '"' then some (endWord name, .text [])
    else if c.isWhitespace then some (endWord name, .code [])
    else some (endWord name ++ [.mark c], .code [])
  | .text content, c =>
    if c = '\\' then some ([], .escape content)
    else if c = '#' then none
    else if c = '"' then some ([.text (String.ofList content.reverse)], .code [])
    else some ([], .text (c :: content))
  | .escape content, c =>
    if StringBody.isSpecial c then some ([], .text (c :: content)) else none

def run (before : State) : List Char → Option (List Token × State)
  | [] => some ([], before)
  | c :: rest => do
    let (tokens, next) ← step before c
    let (others, after) ← run next rest
    return (tokens ++ others, after)

def read (expression : List Char) : Option (List Token) := do
  match ← run (.code []) expression with
  | (tokens, .code name) => some (tokens ++ endWord name)
  | _ => none

def Reads (before : State) (piece : List Char) (tokens : List Token) (after : State) : Prop :=
  run before piece = some (tokens, after)

instance (before : State) (piece : List Char) (tokens : List Token) (after : State) :
    Decidable (Reads before piece tokens after) :=
  inferInstanceAs (Decidable (_ = _))

section Reads

variable {before next after : State} {piece rest : List Char} {tokens others : List Token}

theorem Reads.cons {c : Char} (stepped : step before c = some (tokens, next))
    (reads : Reads next rest others after) : Reads before (c :: rest) (tokens ++ others) after := by
  rw [Reads, run, stepped]
  simp [show run next rest = some (others, after) from reads]

theorem Reads.append (reads : Reads before piece tokens next)
    (more : Reads next rest others after) :
    Reads before (piece ++ rest) (tokens ++ others) after := by
  induction piece generalizing before tokens with
  | nil =>
    obtain ⟨rfl, rfl⟩ : [] = tokens ∧ before = next := by simpa [Reads, run] using reads
    exact more
  | cons c piece ih =>
    cases stepped : step before c with
    | none => simp [Reads, run, stepped] at reads
    | some result =>
      obtain ⟨first, middle⟩ := result
      cases ended : run middle piece with
      | none => simp [Reads, run, stepped, ended] at reads
      | some result' =>
        obtain ⟨second, last⟩ := result'
        obtain ⟨rfl, rfl⟩ : first ++ second = tokens ∧ last = next := by
          simpa [Reads, run, stepped, ended] using reads
        rw [List.cons_append, List.append_assoc]
        exact Reads.cons stepped (ih ended)

theorem read_of_reads {name : List Char} (reads : Reads (.code []) piece tokens (.code name)) :
    read piece = some (tokens ++ endWord name) := by
  rw [read, show run (.code []) piece = some (tokens, .code name) from reads]
  rfl

end Reads

theorem reads_escapeChars (content text : List Char) :
    Reads (.text content) (escapeChars text) [] (.text (text.reverse ++ content)) := by
  induction text generalizing content with
  | nil => rfl
  | cons c text ih =>
    have one : Reads (.text content) (if needsEscape c then ['\\', c] else [c]) []
        (.text (c :: content)) := by
      by_cases special : needsEscape c = true
      · have isSpecial : StringBody.isSpecial c = true := special
        simp [Reads, run, step, special, isSpecial]
      · simp only [needsEscape, Bool.or_eq_true, beq_iff_eq, not_or] at special
        simp [Reads, run, step, needsEscape, special]
    have whole := one.append (ih (c :: content))
    simpa [escapeChars] using whole

/-- A literal is one token, which holds the text that the literal was made from. -/
theorem reads_stringLiteral (name : List Char) (text : String) :
    Reads (.code name) (stringLiteral text).toList (endWord name ++ [.text text]) (.code []) := by
  have opened : Reads (.code name) ['"'] (endWord name) (.text []) := by
    simp [Reads, run, step, isWordChar]
  have closed : Reads (.text (text.toList.reverse ++ [])) ['"'] [.text text] (.code []) := by
    simp [Reads, run, step]
  have whole := (opened.append (reads_escapeChars [] text.toList)).append closed
  simpa [stringLiteral, escape] using whole

theorem reads_word {name : List Char} (done : List Char) (each : ∀ c ∈ name, isWordChar c = true) :
    Reads (.code done) name [] (.code (name.reverse ++ done)) := by
  induction name generalizing done with
  | nil => rfl
  | cons c name ih =>
    have stepped : step (.code done) c = some ([], .code (c :: done)) := by
      simp [step, each c List.mem_cons_self]
    have rest := ih (c :: done) fun d member => each d (List.mem_cons_of_mem _ member)
    simpa using Reads.cons stepped rest

end Token

end ClientGem.Ruby
