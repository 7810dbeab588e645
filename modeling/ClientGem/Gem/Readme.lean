import ClientGem.Gem.Reference

/-!
The introduction to a gem: how to install, configure and use it.
-/

namespace ClientGem.Gem

open Api Ruby

def exampleArgument (verb : Verb) : Parameter → String
  | .path _ => "123"
  | .query => braced "page: 1"
  | .body => if verb = .post then braced "name: \"value\"" else braced "name: \"new value\""

def exampleCall (resource : String) (endpoint : Endpoint) : String :=
  callOf resource endpoint (exampleArgument endpoint.verb)

def introduction (gem : Gem) : String :=
  "# " ++ gem.moduleName ++ " API Client\n\nA Ruby API wrapper for " ++ gem.apiName ++ "."

def installation (gem : Gem) : String :=
  joinLines
    [ "## Installation",
      "",
      "Add this line to your Gemfile:",
      "",
      "```ruby",
      "gem \"" ++ gem.apiName ++ "\"",
      "```",
      "",
      "And then execute:",
      "",
      "    $ bundle install",
      "",
      "Or install it yourself as:",
      "",
      "    $ gem install " ++ gem.apiName ]

def configurationGuide (gem : Gem) : String :=
  joinLines
    ([ "## Configuration",
       "",
       "```ruby",
       gem.moduleName ++ ".configure do |config|",
       "  config.base_url = \"" ++ gem.api.baseUrl ++ "\"",
       "  config.timeout = 30" ] ++
      (credentialExample gem.api).map ("  " ++ ·) ++
      [ "end",
        "```",
        "",
        "Each client can also carry its own configuration: `" ++ gem.moduleName ++
          "::Client.new(my_configuration)`." ])

def usageExample (name : String) (resource : Resource) : List String :=
  match resource.endpoints with
  | [] => []
  | endpoint :: _ =>
    [ "",
      "# " ++ className name ++ " - " ++ endpoint.name,
      "response = " ++ exampleCall name endpoint ]

def usage (gem : Gem) : String :=
  joinLines
    (["## Usage", "", "```ruby", "client = " ++ gem.moduleName ++ ".client"] ++
      gem.resources.flatMap (fun (name, resource) => usageExample name resource) ++
      ["```"])

def endpointOverview (resource : String) (endpoint : Endpoint) : List String :=
  let params := PathTemplate.params endpoint.path
  [ "",
    "#### `" ++ endpoint.name ++ "`",
    "",
    "- HTTP Method: `" ++ endpoint.verb.upperName ++ "`",
    "- Path: `" ++ endpoint.path ++ "`" ] ++
  (if params.isEmpty then []
    else ["- Path Parameters: " ++
      ", ".intercalate (params.map fun param => "`" ++ param ++ "`")]) ++
  (if endpoint.params then ["- Accepts additional query parameters"] else []) ++
  ["", "```ruby", exampleCall resource endpoint, "```"]

def overview (gem : Gem) : String :=
  joinLines
    (["## Available Resources and Endpoints"] ++
      (if gem.resources.isEmpty then ["", "No resources are configured."] else []) ++
      gem.resources.flatMap fun (name, resource) =>
        ["", "### " ++ className name] ++ resource.endpoints.flatMap (endpointOverview name))

def firstCall (gem : Gem) : String :=
  (gem.resources.findSome? fun (name, resource) =>
    resource.endpoints.head?.map (exampleCall name)).getD "client.some_resource.some_method"

def errorGuide (gem : Gem) : String :=
  joinLines
    [ "## Error Handling",
      "",
      "```ruby",
      "begin",
      "  response = " ++ gem.firstCall,
      "rescue " ++ gem.moduleName ++ "::Error => e",
      "  puts \"Error: " ++ interpolated "e.message" ++ "\"",
      "  puts \"Status: " ++ interpolated "e.status" ++ "\"",
      "  puts \"Details: " ++ interpolated "e.body" ++ "\"",
      "end",
      "```" ]

def referenceGuide : String :=
  joinLines
    [ "## API Documentation",
      "",
      "Detailed API documentation is available in the `docs/api.md` file, which includes:",
      "",
      "- All available endpoints",
      "- Required parameters",
      "- Example requests and responses",
      "- Authentication details" ]

def cacheGuide (gem : Gem) : String :=
  let cache := gem.moduleName ++ ".cache"
  joinLines
    [ "## Cache",
      "",
      gem.moduleName ++ " caches values such as OAuth tokens. By default it uses an in-memory " ++
        "cache; set `" ++ cache ++ "` (or `config.cache` on a single configuration) to change it.",
      "",
      "```ruby",
      "# File-based cache",
      cache ++ " = " ++ gem.moduleName ++ "::FileCache.new",
      "",
      "# Rails cache",
      cache ++ " = Rails.cache",
      "",
      "# Any object that responds to read/write/delete/clear",
      cache ++ " = YourCustomCache.new",
      "```" ]

def readme (gem : Gem) : String :=
  joinSections
    [ gem.introduction, gem.installation, gem.configurationGuide, gem.usage, gem.overview,
      gem.errorGuide, referenceGuide, gem.cacheGuide ]

end ClientGem.Gem
