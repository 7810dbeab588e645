import ClientGem.Text.Basic

/-!
Source text as a program of lines and nested blocks, the fragments that lines are put together from,
and its layout. The layout alone decides indentation and blank lines: two spaces for each enclosing
block, never two blank lines together, and none before the end of a block.
-/

namespace ClientGem.Ruby

inductive Item where
  /-- One line, which is not split. -/
  | line (text : String)
  /-- Lines, each split where it has line breaks. -/
  | lines (texts : List String)
  | blank
  | block (header : String) (body : List Item)
  /-- A block of two parts, such as a condition with its alternative. -/
  | clause (header : String) (body : List Item) (second : String) (handler : List Item)
deriving Repr, Inhabited

abbrev Source := List Item

namespace Source

def indent (depth : Nat) (text : String) : String :=
  if text.isEmpty then "" else String.ofList (List.replicate (2 * depth) ' ') ++ text

def addPieces (depth : Nat) (text : String) (done : List String) : List String :=
  (Text.lines text).foldl (fun done piece => indent depth piece :: done) done

def addBlank : List String → List String
  | [] => []
  | last :: done => if last.isEmpty then last :: done else "" :: last :: done

def dropBlanks (done : List String) : List String :=
  done.dropWhile (·.isEmpty)

mutual

/-- Lays an item at a depth on the lines before it, which are given from the last to the first. -/
def addItem (depth : Nat) : Item → List String → List String
  | .line text, done => indent depth text :: done
  | .lines texts, done => texts.foldl (fun done text => addPieces depth text done) done
  | .blank, done => addBlank done
  | .block header body, done =>
    let inside := addItems (depth + 1) body (addPieces depth header done)
    indent depth "end" :: dropBlanks inside
  | .clause header body second handler, done =>
    let inside := dropBlanks (addItems (depth + 1) body (indent depth header :: done))
    let inside := addItems (depth + 1) handler (indent depth second :: inside)
    indent depth "end" :: dropBlanks inside

def addItems (depth : Nat) : List Item → List String → List String
  | [], done => done
  | item :: rest, done => addItems depth rest (addItem depth item done)

end

def finish (done : List String) : String :=
  "\n".intercalate (dropBlanks done).reverse ++ "\n"

def layout (source : Source) : String :=
  finish (addItems 0 source [])

def preamble : Source :=
  [.line "# frozen_string_literal: true", .blank]

end Source

def braced (s : String) : String :=
  "\x7b " ++ s ++ " \x7d"

def emptyHash : String := "\x7b\x7d"

def interpolated (s : String) : String :=
  "#\x7b" ++ s ++ "\x7d"

/-- A name followed by its arguments, which takes no parentheses when there are none. -/
def applied (name : String) (args : List String) : String :=
  if args.isEmpty then name else name ++ "(" ++ ", ".intercalate args ++ ")"

def eachAfterBlank (items : List Item) : Source :=
  items.flatMap fun item => [.blank, item]

theorem eachAfterBlank_cons (item : Item) (items : List Item) :
    eachAfterBlank (item :: items) = .blank :: item :: eachAfterBlank items :=
  rfl

theorem mem_eachAfterBlank {item : Item} {items : List Item} (member : item ∈ items) :
    item ∈ eachAfterBlank items :=
  List.mem_flatMap.mpr ⟨item, member, by simp⟩

def method (signature : String) (body : List String) : Item :=
  .block ("def " ++ signature) (body.map .line)

end ClientGem.Ruby
