import ClientGem.Output.Sink

/-!
Files kept in memory, in the order in which their paths were first written and under the path
first written. The last content written to a path is the one kept.
-/

namespace ClientGem.Output

structure Memory where
  files : List File := []
deriving DecidableEq, Repr, Inhabited

namespace Memory

def putFile (path : FilePath) (content : String) : List File → List File
  | [] => [⟨path, content⟩]
  | file :: rest =>
    if file.path.same path then { file with content } :: rest
    else file :: putFile path content rest

def put (memory : Memory) (path : FilePath) (content : String) : Memory :=
  ⟨putFile path content memory.files⟩

def get? (memory : Memory) (path : FilePath) : Option String :=
  (memory.files.find? (·.path.same path)).map (·.content)

def sink {ε : Type} : Sink (StateM Memory) ε :=
  fun path content => modify (·.put path content)

end Memory

end ClientGem.Output
