import ClientGem.Output.Sink

/-!
Sinks with a bound. Files may be printed one after another on a device, each under its path. A
device may take only some of the bytes it is given, so that it is given the rest again until it has
taken everything, or takes nothing more. In a printout there may be room for a certain number of
bytes only; once they are used up, whatever is printed is cut off and counts as not written. Beside
the state of any sink, there may be a bound on the number of files.
-/

namespace ClientGem.Output

abbrev Bytes := List UInt8

def bytesOf (text : String) : Bytes :=
  text.toList.flatMap String.utf8EncodeChar

/-- Tells how many bytes were taken, from the first on. -/
abbrev Device (m : Type → Type) :=
  Bytes → ExceptT FileFault m Nat

variable {m : Type → Type} [Monad m]

def Device.writeAll (device : Device m) : Bytes → ExceptT FileFault m Unit
  | [] => return
  | byte :: rest => do
    match ← device (byte :: rest) with
    | 0 => throw .incomplete
    | taken + 1 => writeAll device (rest.drop taken)
termination_by bytes => bytes.length

structure Printout where
  printed : Bytes := []
  /-- The bytes that may be printed in all, if there is a bound. -/
  room : Option Nat := none
deriving DecidableEq, Repr, Inhabited

namespace Printout

def block (path : FilePath) (content : String) : String :=
  "=== " ++ path.text ++ " ===\n" ++ content ++ "\n"

/-- The texts of which a block is made; each is printed before the next. -/
def pieces (path : FilePath) (content : String) : List String :=
  ["=== ", path.text, " ===\n", content, "\n"]

def fitting (printout : Printout) (bytes : Bytes) : Bytes :=
  match printout.room with
  | none => bytes
  | some room => bytes.take (room - printout.printed.length)

def add (printout : Printout) (bytes : Bytes) : Printout :=
  { printout with printed := printout.printed ++ bytes }

def device : Device (StateM Printout) :=
  fun bytes printout =>
    let fitting := printout.fitting bytes
    (.ok fitting.length, printout.add fitting)

end Printout

def Device.sink (device : Device m) : Sink m WriteError :=
  fun path content =>
    naming path <| (Printout.pieces path content).forM fun piece => device.writeAll (bytesOf piece)

def Printout.sink : Sink (StateM Printout) WriteError :=
  device.sink

/-- The sink hands on as many files as the count still allows, and refuses those after them. -/
def boundedSink {σ : Type} (sink : Sink (StateM σ) WriteError) :
    Sink (StateM (Nat × σ)) WriteError :=
  fun path content (count, state) =>
    match count with
    | 0 => (.error ⟨path, .full⟩, (0, state))
    | count + 1 =>
      let (result, state) := sink path content state
      (result, (count, state))

end ClientGem.Output
