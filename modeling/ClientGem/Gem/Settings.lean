import ClientGem.Gem.Basic
import ClientGem.Gem.Credentials
import ClientGem.Ruby.Name
import ClientGem.Ruby.Source

/-!
The class that holds the settings of a generated client, and the two caches that it may have, one in
memory and one in a file.
-/

namespace ClientGem.Gem

open Ruby

def configurationSource (gem : Gem) : Source :=
  Source.preamble ++
  [ .block ("module " ++ gem.moduleName)
      [ .block "class Configuration"
          ([.line "attr_accessor :base_url, :timeout, :headers, :cache"] ++
            (if gem.api.auth.isAuthenticated then
              [.line ("attr_accessor " ++
                ", ".intercalate ((credentialAttributes gem.api.auth).map (":" ++ ·)))]
            else []) ++
            [ .blank,
              .block "def initialize"
                [ .line ("@base_url = " ++ stringLiteral gem.api.baseUrl),
                  .line "@timeout = 30",
                  .lines
                    [ "@headers = \x7b",
                      "  \"Content-Type\" => \"application/json\",",
                      "  \"Accept\" => \"application/json\"",
                      "\x7d" ],
                  .line "@cache = nil",
                  .lines (credentialDefaults gem.api) ] ]) ] ]

def cacheOperations (read write delete clear : String) : Source :=
  eachAfterBlank
    [ method "read(key)" [read], method "write(key, value)" [write],
      method "delete(key)" [delete], method "clear" [clear] ]

def cacheSource (gem : Gem) : Source :=
  Source.preamble ++
  [ .block ("module " ++ gem.moduleName)
      [ .line "# In-process cache; safe to share between threads.",
        .block "class MemoryCache"
          (method "initialize" ["@store = " ++ emptyHash, "@mutex = Mutex.new"] ::
            cacheOperations
              ("@mutex.synchronize " ++ braced "@store[key]")
              ("@mutex.synchronize " ++ braced "@store[key] = value")
              ("@mutex.synchronize " ++ braced "@store.delete(key)")
              ("@mutex.synchronize " ++ braced "@store.clear")),
        .blank,
        .line "# Cache persisted to a YAML file.",
        .block "class FileCache"
          (method ("initialize(path = " ++ stringLiteral (gem.lowerName ++ "_cache.yaml") ++ ")")
              ["require \"yaml/store\"", "@store = YAML::Store.new(path)"] ::
            cacheOperations
              ("@store.transaction(true) " ++ braced "@store[key]")
              ("@store.transaction " ++ braced "@store[key] = value")
              ("@store.transaction " ++ braced "@store.delete(key)")
              ("@store.transaction " ++
                braced ("@store.roots.each " ++ braced "|key| @store.delete(key)"))) ] ]

end ClientGem.Gem
