import ClientGem.Text.Basic
import ClientGem.Unicode.Properties

/-!
The verbs of HTTP that an endpoint may use.
-/

namespace ClientGem.Api

inductive Verb where
  | get
  | post
  | put
  | patch
  | delete
deriving DecidableEq, Repr, Inhabited

namespace Verb

def all : List Verb :=
  [get, post, put, patch, delete]

def name : Verb → String
  | get => "get"
  | post => "post"
  | put => "put"
  | patch => "patch"
  | delete => "delete"

def upperName : Verb → String
  | get => "GET"
  | post => "POST"
  | put => "PUT"
  | patch => "PATCH"
  | delete => "DELETE"

def hasBody : Verb → Bool
  | post | put | patch => true
  | get | delete => false

def ofName? (s : String) : Option Verb :=
  all.find? fun verb => Text.sameWord s verb.name

def read? (s : String) : Option Verb :=
  ofName? (Unicode.trim s)

end Verb

end ClientGem.Api
