import ClientGem.Gem.Basic
import ClientGem.Gem.Method
import ClientGem.Ruby.Source

/-!
The file through which a gem is loaded, and the classes through which a generated client is used.
The file requires all the others, and gives the module a configuration and a cache of its own. The
client has one reader for each resource, and a resource one method for each endpoint.
-/

namespace ClientGem.Gem

open Ruby Api

def baseFiles : List String :=
  ["version", "configuration", "error", "request", "object", "collection", "cache", "client"]

def requireLine (target : String) : Item :=
  .line ("require_relative \"" ++ target ++ "\"")

def entrySource (gem : Gem) : Source :=
  Source.preamble ++
  baseFiles.map (fun file => requireLine (gem.fileStem ++ "/" ++ file)) ++
  [.blank, .line "# Resources"] ++
  gem.resourceNames.map (fun name => requireLine (gem.fileStem ++ "/resources/" ++ name)) ++
  [ .blank,
    .block ("module " ++ gem.moduleName)
      [ .block "class << self"
          [ .line "attr_writer :configuration, :cache",
            .blank,
            method "configuration" ["@configuration ||= Configuration.new"],
            .blank,
            method "cache" ["@cache ||= MemoryCache.new"],
            .blank,
            method "configure" ["yield(configuration) if block_given?", "self"],
            .blank,
            method "client(configuration = self.configuration)" ["Client.new(configuration)"],
            .blank,
            method "reset!"
              ["@configuration = Configuration.new", "@cache = MemoryCache.new"] ] ] ]

def initialVersion : String := "0.1.0"

def versionSource (gem : Gem) : Source :=
  Source.preamble ++
  [.block ("module " ++ gem.moduleName) [.line ("VERSION = \"" ++ initialVersion ++ "\"")]]

def resourceReader (name : String) : Item :=
  method name ["@" ++ name ++ " ||= Resources::" ++ className name ++ ".new(self)"]

def clientSource (gem : Gem) : Source :=
  Source.preamble ++
  [ .block ("module " ++ gem.moduleName)
      [ .block "class Client"
          ([ .line "attr_reader :configuration",
             .blank,
             method ("initialize(configuration = " ++ gem.moduleName ++ ".configuration)")
               ["@configuration = configuration"] ] ++
            eachAfterBlank (gem.resourceNames.map resourceReader)) ] ]

def endpointMethod (moduleName : String) (format : ResponseFormat) (endpoint : Endpoint) : Item :=
  .block (signature endpoint)
    [ .line ("request = " ++ moduleName ++ "::Request.new(\"" ++
        PathTemplate.interpolate endpoint.path ++ "\", @config)"),
      .line ("response = " ++ requestCall endpoint),
      .blank,
      .line (unwrapExpression moduleName endpoint.isCollection format) ]

def resourceSource (gem : Gem) (name : String) (resource : Resource) : Source :=
  let format := resource.format gem.api.responseFormat
  let methods := resource.endpoints.map (endpointMethod gem.moduleName format)
  Source.preamble ++
  [ .block ("module " ++ gem.moduleName)
      [ .block "module Resources"
          [ .block ("class " ++ className name)
              ([ .line "attr_reader :client",
                 .blank,
                 method "initialize(client)"
                   ["@client = client", "@config = client.configuration"] ] ++
                eachAfterBlank methods) ] ] ]

end ClientGem.Gem
