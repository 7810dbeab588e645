import ClientGem.Api.Config
import ClientGem.Ruby.Name

/-!
A gem to be generated: the API it is for, and the names that all of its files share.
-/

namespace ClientGem

structure Gem where
  api : Api.Config
deriving DecidableEq, Repr, Inhabited

namespace Gem

def apiName (gem : Gem) : String :=
  gem.api.name

def fileStem (gem : Gem) : String :=
  Ruby.fileStem gem.apiName

def moduleName (gem : Gem) : String :=
  Ruby.moduleName gem.apiName

def lowerName (gem : Gem) : String :=
  Unicode.lowercase gem.moduleName

def resources (gem : Gem) : List (String × Api.Resource) :=
  gem.api.resources.entries

def resourceNames (gem : Gem) : List String :=
  gem.api.resources.names

def address (gem : Gem) (path : String) : String :=
  Api.Config.withoutTrailingSlashes gem.api.baseUrl ++ "/" ++
    String.ofList (path.toList.dropWhile (· == '/'))

end Gem

end ClientGem
