import ClientGem.Document.ShapeError

/-!
Reading texts, lists and records off a document value. A field may be absent or null, both meaning
that nothing was said; fields with other names are passed over. The first fault in the order of
the document is the one reported.
-/

namespace ClientGem.Document

abbrev Decoded (α : Type) := Except ShapeError α

def mismatch {α : Type} (value : Value) (wanted : Wanted) : Decoded α :=
  .error (.mismatch value.found wanted)

def readText (wanted : Wanted) (value : Value) : Decoded String :=
  match value.untagged with
  | .text s => .ok s
  | _ => mismatch value wanted

def readBool (value : Value) : Decoded Bool :=
  match value.untagged with
  | .bool b => .ok b
  | _ => mismatch value .boolean

/-- A null stands for an empty mapping, also behind a tag. -/
def readEntries (wanted : Wanted) (value : Value) : Decoded (List (Value × Value)) :=
  match value.untagged with
  | .map entries => .ok entries
  | .null => .ok []
  | _ => mismatch value wanted

def readItems (value : Value) : Decoded (List Value) :=
  match value.untagged with
  | .seq items => .ok items
  | .null => .ok []
  | _ => mismatch value .sequence

/-- Only a bare null means that nothing was said. -/
def optional {α : Type} (read : Value → Decoded α) (value : Value) : Decoded (Option α) :=
  if value.isNull then .ok none else some <$> read value

def orDefault {α : Type} (default : α) (read : Value → Decoded α) (value : Value) : Decoded α :=
  (·.getD default) <$> optional read value

/-- Reads the entries of a record one after another. `set` handles the fields in `known`, none of
which may come twice. -/
def readFields {σ : Type} (known : List String) (set : String → Value → σ → Decoded σ) :
    List String → List (Value × Value) → σ → Decoded σ
  | _, [], record => .ok record
  | seen, (key, value) :: rest, record => do
    let field ← readText .fieldName key
    if known.contains field then
      if seen.contains field then .error (.repeatedField field)
      else readFields known set (field :: seen) rest (← set field value record)
    else readFields known set seen rest record

def readRecord {σ : Type} (wanted : Wanted) (known : List String)
    (set : String → Value → σ → Decoded σ) (start : σ) (value : Value) : Decoded σ := do
  readFields known set [] (← readEntries wanted value) start

end ClientGem.Document
