import ClientGem.Api.Resource
import ClientGem.Text.Basic
import ClientGem.Unicode.Properties

/-!
The description of an API, and how its clients prove who they are. Settings are kept as they were
given; what an absent setting stands for is decided where the setting is used.
-/

namespace ClientGem.Api

inductive AuthMode where
  | none
  | basic
  | apiKey
  | oauth
deriving DecidableEq, Repr, Inhabited

namespace AuthMode

def all : List AuthMode :=
  [none, basic, apiKey, oauth]

def name : AuthMode → String
  | none => "none"
  | basic => "basic"
  | apiKey => "api_key"
  | oauth => "oauth"

def isAuthenticated (mode : AuthMode) : Bool :=
  mode != none

def ofName? (s : String) : Option AuthMode :=
  all.find? fun mode => Text.sameWord s mode.name

def read? (setting : String) : Option AuthMode :=
  ofName? (Unicode.trim setting)

/-- A name that is no mode, as well as no name, leaves the client unauthenticated. -/
def ofSetting (setting : Option String) : AuthMode :=
  (setting.bind read?).getD none

end AuthMode

structure Config where
  nameSetting : Option String := none
  baseUrlSetting : Option String := none
  auth : AuthMode := .none
  tokenUrlSetting : Option String := none
  apiKeyHeaderSetting : Option String := none
  responseFormat : ResponseFormat := {}
  resources : ResourceTable := .empty
deriving DecidableEq, Repr, Inhabited

namespace Config

def defaultName : String := "api"
def defaultBaseUrl : String := "https://api.example.com"
def defaultApiKeyHeader : String := "X-Api-Key"

/-- A blank name counts as none. -/
def name (config : Config) : String :=
  match config.nameSetting with
  | some name => if Unicode.isBlankText name then defaultName else name
  | none => defaultName

def baseUrl (config : Config) : String :=
  config.baseUrlSetting.getD defaultBaseUrl

def withoutTrailingSlashes (url : String) : String :=
  String.ofList (Unicode.dropEndWhile (· == '/') url.toList)

def tokenUrl (config : Config) : String :=
  config.tokenUrlSetting.getD (withoutTrailingSlashes config.baseUrl ++ "/oauth/token")

def apiKeyHeader (config : Config) : String :=
  config.apiKeyHeaderSetting.getD defaultApiKeyHeader

end Config

end ClientGem.Api
