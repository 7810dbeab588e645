import ClientGem.Text.Basic

/-!
Paths of files, kept as they are written. Two paths are the same when their components are:
repeated slashes, slashes at the end and steps to the same directory do not count, except that a
path may begin with the directory it starts from.
-/

namespace ClientGem

structure FilePath where
  text : String
deriving DecidableEq, Repr, Inhabited

namespace FilePath

inductive Component where
  | root
  | here
  | up
  | name (name : List Char)
deriving DecidableEq, Repr

def here : List Char := ['.']
def up : List Char := ['.', '.']

def splitStart : List Char → List Char × List Char
  | '/' :: rest => (['/'], rest)
  | ['.'] => (here, [])
  | '.' :: '/' :: rest => (here, '/' :: rest)
  | cs => ([], cs)

def start (path : FilePath) : List Char :=
  (splitStart path.text.toList).1

def pieces (cs : List Char) : List (List Char) :=
  Text.splitChars (· == '/') cs

def body (path : FilePath) : List (List Char) :=
  pieces (splitStart path.text.toList).2

def isIdle (piece : List Char) : Bool :=
  piece.isEmpty || piece == here

def startComponents (start : List Char) : List Component :=
  if start = ['/'] then [.root] else if start = here then [.here] else []

def component (piece : List Char) : Component :=
  if piece = up then .up else .name piece

def components (path : FilePath) : List Component :=
  startComponents path.start ++ (path.body.filter (!isIdle ·)).map component

def same (p q : FilePath) : Bool :=
  p.components == q.components

def isAbsolute (path : FilePath) : Bool :=
  path.start == ['/']

def isEmpty (path : FilePath) : Bool :=
  path.text.isEmpty

def endsInSlash (path : FilePath) : Bool :=
  path.text.toList.getLast? == some '/'

/-- A path below another one; an absolute path is below none. -/
def join (base path : FilePath) : FilePath :=
  if path.isAbsolute || base.isEmpty then path
  else if base.endsInSlash then ⟨base.text ++ path.text⟩
  else ⟨base.text ++ "/" ++ path.text⟩

/-- The paths above one of the given start and pieces, of which the last comes first. -/
def above (start : List Char) : List (List Char) → List FilePath
  | [] => if start = here then [⟨""⟩] else []
  | _ :: before =>
    let rest := before.dropWhile isIdle
    ⟨String.ofList (start ++ ['/'].intercalate rest.reverse)⟩ :: above start rest
termination_by pieces => pieces.length
decreasing_by
  have := (List.dropWhile_sublist isIdle (l := before)).length_le
  simp; omega

def reversedBody (path : FilePath) : List (List Char) :=
  path.body.reverse.dropWhile isIdle

def ancestors (path : FilePath) : List FilePath :=
  above path.start path.reversedBody

def parent? (path : FilePath) : Option FilePath :=
  path.ancestors.head?

def fileName? (path : FilePath) : Option String :=
  match path.reversedBody with
  | last :: _ => if last = up then none else some (String.ofList last)
  | [] => none

def withFileName (path : FilePath) (name : String) : FilePath :=
  match path.fileName? with
  | some _ => (path.parent?.getD path).join ⟨name⟩
  | none => path.join ⟨name⟩

def steps (path : FilePath) : List String :=
  ((pieces path.text.toList).filter (!·.isEmpty)).map String.ofList

end FilePath

end ClientGem
