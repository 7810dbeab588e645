import ClientGem.Document.Value
import ClientGem.Text.Quoted

/-!
What can be wrong with the shape of a document that describes an API, and how it is said.
-/

namespace ClientGem.Document

open Number

inductive Found where
  | null
  | bool (value : Bool)
  | int (value : Int)
  | float (value : Binary64)
  | text (value : String)
  | sequence
  | mapping
deriving DecidableEq, Repr

inductive Wanted where
  | text
  | boolean
  | sequence
  | mapping
  | fieldName
  | config
  | resource
  | endpoint
  | responseFormat
  | pagination
deriving DecidableEq, Repr

inductive ShapeError where
  | mismatch (found : Found) (wanted : Wanted)
  | missingName
  | repeatedField (name : String)
  | unknownVerb (raw : String)
deriving DecidableEq, Repr

def Value.found : Value → Found
  | .null => .null
  | .bool b => .bool b
  | .int i => .int i
  | .float x => .float x
  | .text s => .text s
  | .seq _ => .sequence
  | .map _ => .mapping
  | .tagged _ value => value.found

def Found.describe : Found → String
  | null => "unit value"
  | bool b => "boolean `" ++ (if b then "true" else "false") ++ "`"
  | int i => "integer `" ++ toString i ++ "`"
  | float x => "floating point `" ++ x.toText ++ "`"
  | text s => "string " ++ Text.quoted s
  | sequence => "sequence"
  | mapping => "map"

def Wanted.describe : Wanted → String
  | text => "a string"
  | boolean => "a boolean"
  | sequence => "a sequence"
  | mapping => "a map"
  | fieldName => "field identifier"
  | config => "struct ApiConfig"
  | resource => "struct ResourceSpec"
  | endpoint => "struct EndpointSpec"
  | responseFormat => "struct ResponseFormat"
  | pagination => "struct Pagination"

def unknownVerbMessage (raw : String) : String :=
  "unsupported HTTP method '" ++ raw ++ "' (expected get, post, put, patch or delete)"

def ShapeError.message : ShapeError → String
  | mismatch found wanted => "invalid type: " ++ found.describe ++ ", expected " ++ wanted.describe
  | missingName => "missing field `name`"
  | repeatedField name => "duplicate field `" ++ name ++ "`"
  | unknownVerb raw => unknownVerbMessage raw

end ClientGem.Document
