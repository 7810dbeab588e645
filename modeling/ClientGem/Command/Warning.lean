import ClientGem.Api.Decode
import ClientGem.Text.Quoted

/-!
Warnings about descriptions that can be used and yet look like a mistake. Each names one entry of
the description.
-/

namespace ClientGem.Command

open Api Document

inductive Warning where
  | unknownAuth (setting : String)
  | noEndpoints (resource : String)
deriving DecidableEq, Repr

namespace Warning

def message : Warning → String
  | unknownAuth _ => "unknown auth_type, generating an unauthenticated client"
  | noEndpoints _ => "resource declares no endpoints"

def subject : Warning → String × String
  | unknownAuth setting => ("auth_type", setting)
  | noEndpoints resource => ("resource", resource)

/-- The subject is written as it is, so that it may go on in further lines. -/
def plainRecord (warning : Warning) : String :=
  let (name, value) := warning.subject
  "WARN " ++ warning.message ++ " " ++ name ++ "=" ++ value

def jsonRecord (warning : Warning) : String :=
  let (name, value) := warning.subject
  "\x7b\"level\":\"WARN\",\"fields\":\x7b\"message\":" ++ Text.jsonString warning.message ++
    "," ++ Text.jsonString name ++ ":" ++ Text.jsonString value ++ "\x7d\x7d"

def record (asJson : Bool) (warning : Warning) : String :=
  if asJson then warning.jsonRecord else warning.plainRecord

end Warning

def isAuthEntry (entry : Value × Value) : Bool :=
  match entry.1.untagged with
  | .text name => name == "auth_type"
  | _ => false

def authSetting? (document : Value) : Option String := do
  let entries ← (readEntries .config document).toOption
  let entry ← entries.find? isAuthEntry
  let config := Config.decode (.map (entries.takeWhile (!isAuthEntry ·) ++ [entry]))
  if config.isOk then (readText .text entry.2).toOption else none

def authWarnings (document : Value) : List Warning :=
  match authSetting? document with
  | some setting => if (AuthMode.read? setting).isNone then [.unknownAuth setting] else []
  | none => []

def resourceWarnings (document : Value) : List Warning :=
  match Config.decode document with
  | .ok config =>
    (config.resources.entries.filter (·.2.endpoints.isEmpty)).map (.noEndpoints ·.1)
  | .error _ => []

end ClientGem.Command
