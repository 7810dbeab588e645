import ClientGem.Yaml.Linked
import ClientGem.Yaml.Plain

/-!
The value of a YAML document. Every alias is replaced by a copy of the node with its anchor; how
deep the copies nest and how many there are is limited. No mapping may hold a key twice.
-/

namespace ClientGem.Yaml

open Document

/-- The tag that a value keeps: one that begins with an exclamation mark, without the mark. -/
def localTag? (tag : Option Octets) : Option String :=
  match tag with
  | some (first :: rest) =>
    if first = 0x21 then
      String.fromUTF8? ⟨(if rest.isEmpty then [first] else rest).toArray⟩
    else none
  | _ => none

def coreTag (name : String) : Octets :=
  octets ("tag:yaml.org,2002:" ++ name)

def beginsLocal (tag : Octets) : Bool :=
  tag.head? == some 0x21

def scalarValue (spot : Spot) (tag : Option Octets) (text : String) (plain : Bool) :
    Except Fault Value :=
  let wanted (kind : ScalarKind) (value : Option Value) : Except Fault Value :=
    match value with
    | some value => .ok value
    | none => .error (.unfitScalar spot text kind)
  match tag with
  | none => if plain then plainValue spot text else .ok (.text text)
  | some tag =>
    if tag = coreTag "bool" then wanted .boolean ((boolWord? text).map .bool)
    else if tag = coreTag "int" then do wanted .integer (← integerValue? spot text)
    else if tag = coreTag "float" then wanted .float ((float? text).map .float)
    else if tag = coreTag "null" then wanted .null (if isNullWord text then some .null else none)
    else if beginsLocal tag && plain then plainValue spot text
    else .ok (.text text)

def withTag (tag : Option String) (value : Value) : Value :=
  match tag with
  | some tag => .tagged tag value
  | none => value

def depthLimit : Nat := 128

structure Copying where
  targets : List (Nat × Linked)
  /-- How many aliases may be followed. -/
  limit : Nat

/-- A number may be given to several nodes; the last one counts. -/
def Copying.target? (copying : Copying) (number : Nat) : Option Linked :=
  (copying.targets.reverse.lookup number)

abbrev Copied (α : Type) := StateT Nat (Except Fault) α

def Copying.follow (copying : Copying) : Linked → Copied Linked
  | .reference place number => do
    let used ← get
    if copying.limit < used + 1 then throw .tooManyCopies
    set (used + 1)
    match copying.target? number with
    | some node => pure node
    | none => throw (.unknownAnchor place)
  | node => pure node

def holdsKey (key : Value) (entries : List (Value × Value)) : Bool :=
  entries.any fun entry => entry.1.same key

def nameOfKey? : Value → Option Found
  | .tagged .. => none
  | key => some key.found

def Linked.entryStep : Linked → PathStep
  | scalar _ _ _ text _ => .entry text
  | _ => .unnamed

/-- The value of a node with at most `depth` collections open within one another. -/
def Copying.value (copying : Copying) (depth : Nat) (path : NodePath) (node : Linked) :
    Copied Value := do
  match depth, ← copying.follow node with
  | _, .refused fault => throw fault
  | _, .reference place _ => throw (.unknownAnchor place)
  | _, .scalar place _ tag text plain =>
    let spot : Spot := { path, place }
    match localTag? tag with
    | some name =>
      return .tagged name (← if plain then plainValue spot text else pure (.text text))
    | none => scalarValue spot tag text plain
  | 0, .seq place .. | 0, .map place .. => throw (.tooDeep place)
  | depth + 1, .seq _ _ tag items =>
    let values ← items.zipIdx.mapM fun (item, index) =>
      copying.value depth (.item index :: path) item
    return withTag (localTag? tag) (.seq values)
  | depth + 1, .map place _ tag entries => do
    let entries ← entries.foldlM (fun (done : List (Value × Value)) entry => do
      let key ← copying.value depth path entry.1
      if holdsKey key done then throw (.repeatedKey { path, place } (nameOfKey? key))
      let value ← copying.value depth (entry.1.entryStep :: path) entry.2
      return (key, value) :: done) []
    return withTag (localTag? tag) (.map entries.reverse)

/-- The value of the only document of a text; a text without a document is null. -/
def read (source : String) : Except Fault Value := do
  match Node.ofTokens? (tokens source) with
  | none => .ok .null
  | some (node, faultAfter) =>
    let (root, _) := Linked.ofNode [] node
    let copying : Copying := { targets := root.targets, limit := root.events.1 * 100 }
    let value ← (copying.value depthLimit [] root).run' 0
    match faultAfter with
    | some fault => .error fault
    | none => .ok value

end ClientGem.Yaml
