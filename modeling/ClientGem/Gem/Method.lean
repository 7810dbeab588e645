import ClientGem.Api.Resource
import ClientGem.PathTemplate
import ClientGem.Ruby.Name
import ClientGem.Ruby.Source

/-!
The method generated for an endpoint. Its parameters are those of the path in the order of their
first occurrence, then a hash for the query and one for the body, where the endpoint takes them. Its
result is made of the body of the response by the keys of the response format in effect: an object
or a collection of objects.
-/

namespace ClientGem.Gem

open Api Ruby

inductive Parameter where
  | path (name : String)
  | query
  | body
deriving DecidableEq, Repr

namespace Parameter

def name : Parameter → String
  | path name => name
  | query => "params"
  | body => "body"

def declaration : Parameter → String
  | path name => name
  | query => "params = " ++ emptyHash
  | body => "body = " ++ emptyHash

def keyword? : Parameter → Option String
  | path _ => none
  | query => some "params"
  | body => some "body"

end Parameter

def passedAs (keyword : String) : String :=
  keyword ++ ": " ++ keyword

def parameters (endpoint : Endpoint) : List Parameter :=
  (PathTemplate.params endpoint.path).map .path ++
    (if endpoint.params then [.query] else []) ++
    (if endpoint.verb.hasBody then [.body] else [])

def declarations (endpoint : Endpoint) : List String :=
  (parameters endpoint).map Parameter.declaration

def signature (endpoint : Endpoint) : String :=
  "def " ++ applied endpoint.name (declarations endpoint)

def requestCall (endpoint : Endpoint) : String :=
  applied ("request." ++ endpoint.verb.name)
    (((parameters endpoint).filterMap Parameter.keyword?).map passedAs)

def callOf (resource : String) (endpoint : Endpoint) (argument : Parameter → String) : String :=
  applied ("client." ++ resource ++ "." ++ endpoint.name) ((parameters endpoint).map argument)

def collectionKeys (format : ResponseFormat) : List (String × Option String) :=
  [("data_key", format.collectionRoot), ("next_key", format.nextPageKey),
    ("total_key", format.totalCountKey), ("limit_key", format.limitKey)]

def collectionArguments (moduleName : String) (format : ResponseFormat) : List String :=
  ("type: " ++ moduleName ++ "::Object") ::
    (collectionKeys format).filterMap fun (keyword, key) =>
      key.map fun key => keyword ++ ": " ++ stringLiteral key

def collectionExpression (moduleName : String) (format : ResponseFormat) : String :=
  moduleName ++ "::Collection.from_response(response, " ++
    ", ".intercalate (collectionArguments moduleName format) ++ ")"

def objectExpression (moduleName : String) (itemRoot : Option String) : String :=
  match itemRoot with
  | some root =>
    moduleName ++ "::Object.new(response.is_a?(Hash) ? (response[" ++ symbolLiteral root ++
      "] || response[" ++ stringLiteral root ++ "] || response) : response)"
  | none => moduleName ++ "::Object.new(response)"

def unwrapExpression (moduleName : String) (isCollection : Bool) (format : ResponseFormat) :
    String :=
  if isCollection then collectionExpression moduleName format
  else objectExpression moduleName format.itemRoot

end ClientGem.Gem
