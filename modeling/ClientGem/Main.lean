import ClientGem.Command.Run

/-!
The program on the disk of the machine it runs on.
-/

namespace ClientGem

def faultOfNumber (number : UInt32) (reason : String) : FileFault :=
  match number.toNat with
  | 2 => .notFound
  | 16 => .busy
  | 17 => .alreadyExists
  | 20 => .notDirectory
  | 21 => .isDirectory
  | 36 => .nameTooLong
  | number => .other (reason ++ " (os error " ++ toString number ++ ")")

def faultOf (error : IO.Error) : FileFault :=
  match error with
  | .noFileOrDirectory _ number reason => faultOfNumber number reason
  | .noSuchThing _ number reason => faultOfNumber number reason
  | .alreadyExists _ number reason => faultOfNumber number reason
  | .inappropriateType _ number reason => faultOfNumber number reason
  | .invalidArgument _ number reason => faultOfNumber number reason
  | .permissionDenied _ number reason => faultOfNumber number reason
  | .resourceExhausted _ number reason => faultOfNumber number reason
  | .resourceBusy number reason => faultOfNumber number reason
  | .otherError number reason => faultOfNumber number reason
  | error => .other (toString error)

def calling {α : Type} (call : IO α) : ExceptT FileFault IO α :=
  ExceptT.mk do
    try return .ok (← call)
    catch error => return .error (faultOf error)

def realDisk : Disk IO where
  kind? path := do
    try
      let found ← IO.FS.realPath path.text
      if ← found.isDir then return some .directory
      else if ← found.pathExists then return some .file
      else return none
    catch _ => return none
  read path := calling (IO.FS.readBinFile path.text)
  makeDirectory path := calling (IO.FS.createDir path.text)
  write path content := calling (IO.FS.writeBinFile path.text content)
  move source target := calling (IO.FS.rename source.text target.text)
  removeFile path := calling (IO.FS.removeFile path.text)

end ClientGem

open ClientGem in
def main (args : List String) : IO UInt32 := do
  match Command.Request.ofArguments? args with
  | some .help => IO.println Command.usage
  | none => IO.eprintln Command.usage
  | some _ => pure ()
  let workingName := (← IO.currentDir).fileName
  let outcome ← Command.run realDisk workingName args
  (← IO.getStdout).write outcome.printed.toByteArray
  (outcome.warnings ++ outcome.complaint.toList).forM IO.eprintln
  return UInt32.ofNat outcome.code
