import ClientGem.Gem.Credentials
import ClientGem.Gem.Method
import ClientGem.Gem.Wrappers

/-!
The tests that come with a gem: of the configuration, the client and its errors, and one for each
endpoint, whose stubbed response has the shape that the method of the endpoint unwraps.
-/

namespace ClientGem.Gem

open Api Ruby

def sampleValue : String := "123"

def testHelperSource (gem : Gem) : Source :=
  Source.preamble ++
  [ .line "$LOAD_PATH.unshift File.expand_path(\"../lib\", __dir__)",
    .line ("require \"" ++ gem.fileStem ++ "\""),
    .blank,
    .line "require \"minitest/autorun\"",
    .line "require \"webmock/minitest\"" ]

def setupTest (gem : Gem) : Item :=
  .block "def setup"
    [ .line (gem.moduleName ++ ".reset!"),
      .block (gem.moduleName ++ ".configure do |config|")
        (.line ("config.base_url = " ++ stringLiteral gem.api.baseUrl) ::
          if gem.api.auth = .oauth then [.line "config.access_token = \"test_access_token\""]
          else []) ]

def configurationTest (gem : Gem) : Item :=
  .block "def test_configuration"
    [ .block (gem.moduleName ++ ".configure do |config|")
        [ .line "config.base_url = \"https://api.test.org\"",
          .line "config.timeout = 60",
          .lines (credentialTestSettings gem.api) ],
      .blank,
      .line ("assert_equal \"https://api.test.org\", " ++ gem.moduleName ++
        ".configuration.base_url"),
      .line ("assert_equal 60, " ++ gem.moduleName ++ ".configuration.timeout"),
      .lines (credentialAssertions gem.moduleName gem.api) ]

def clientTest (gem : Gem) : Item :=
  .block "def test_client_initialization"
    ([ .line ("client = " ++ gem.moduleName ++ ".client"),
       .blank,
       .line ("assert_instance_of " ++ gem.moduleName ++ "::Client, client"),
       .line ("assert_same " ++ gem.moduleName ++ ".configuration, client.configuration") ] ++
      gem.resourceNames.map fun name => .line ("assert_respond_to client, :" ++ name))

def errorTest (gem : Gem) : Item :=
  let details := braced "\"error\" => \"details\""
  .block "def test_error_handling"
    [ .line ("error = " ++ gem.moduleName ++ "::Error.new(\"Test error\", " ++ details ++ ", 400)"),
      .blank,
      .line "assert_equal \"Test error\", error.message",
      .line ("assert_equal(" ++ details ++ ", error.body)"),
      .line "assert_equal 400, error.status" ]

def returnedHeaders : String :=
  "             headers: " ++ braced "\"Content-Type\" => \"application/json\"" ++ ")"

def errorResponseTest (gem : Gem) : Item :=
  .block "def test_http_error_response"
    [ .line ("stub_request(:get, " ++ stringLiteral (gem.address "error_test") ++ ")"),
      .line ("  .to_return(status: 404, body: " ++
        braced "\"error\" => \"Resource not found\"" ++ ".to_json,"),
      .line returnedHeaders,
      .blank,
      .block ("error = assert_raises(" ++ gem.moduleName ++ "::Error) do")
        [.line (gem.moduleName ++ "::Request.new(\"error_test\").get")],
      .blank,
      .line "assert_equal 404, error.status",
      .line "assert_includes error.message, \"Resource not found\"" ]

def methodSafe (name : String) : String :=
  String.ofList (name.toList.map fun c => if isWordChar c then c else '_')

def endpointTestName (resource : String) (endpoint : Endpoint) : String :=
  "test_" ++ methodSafe resource ++ "_" ++ methodSafe endpoint.name

def sampleItem : String := braced "\"id\" => 1, \"name\" => \"Test\""

def sampleBody (isCollection : Bool) (format : ResponseFormat) : String :=
  if isCollection then
    let dataKey := format.collectionRoot.getD defaultDataKey
    let nextKey := format.nextPageKey.getD defaultNextKey
    braced (stringLiteral dataKey ++ " => [" ++ sampleItem ++ "], " ++
      stringLiteral nextKey ++ " => \"/next\"")
  else
    match format.itemRoot with
    | some root => braced (stringLiteral root ++ " => " ++ sampleItem)
    | none => sampleItem

def testArgument : Parameter → String
  | .path _ => stringLiteral sampleValue
  | .query => braced "page: 1"
  | .body => braced "name: \"Test\""

def testAddress (gem : Gem) (endpoint : Endpoint) : String :=
  gem.address (PathTemplate.substitute endpoint.path
    ((PathTemplate.params endpoint.path).map fun name => (name, sampleValue)))

def resultAssertions (moduleName : String) (isCollection : Bool) : List String :=
  if isCollection then
    [ "assert_instance_of " ++ moduleName ++ "::Collection, result",
      "assert_equal 1, result.size",
      "assert_equal 1, result.data.first.id",
      "assert result.next_page?" ]
  else
    [ "assert_instance_of " ++ moduleName ++ "::Object, result",
      "assert_equal 1, result.id",
      "assert_equal \"Test\", result.name" ]

def endpointTest (gem : Gem) (resource : String) (format : ResponseFormat)
    (endpoint : Endpoint) : Item :=
  .block ("def " ++ endpointTestName resource endpoint)
    ([ .line ("response_body = " ++ sampleBody endpoint.isCollection format),
       .line ("stub_request(:" ++ endpoint.verb.name ++ ", " ++
         stringLiteral (gem.testAddress endpoint) ++ ")") ] ++
      (if endpoint.params then
        [.line ("  .with(query: " ++ braced "\"page\" => \"1\"" ++ ")")] else []) ++
      [ .line "  .to_return(status: 200, body: response_body.to_json,",
        .line returnedHeaders,
        .blank,
        .line ("client = " ++ gem.moduleName ++ ".client"),
        .line ("result = " ++ callOf resource endpoint testArgument),
        .blank ] ++
      (resultAssertions gem.moduleName endpoint.isCollection).map .line)

def endpointTests (gem : Gem) : List Item :=
  gem.resources.flatMap fun (name, resource) =>
    resource.endpoints.map (gem.endpointTest name (resource.format gem.api.responseFormat))

def testSuiteSource (gem : Gem) : Source :=
  Source.preamble ++
  [ .line "require \"test_helper\"",
    .blank,
    .block ("class " ++ gem.moduleName ++ "Test < Minitest::Test")
      ([ gem.setupTest,
         .blank,
         gem.configurationTest,
         .blank,
         gem.clientTest,
         .blank,
         gem.errorTest,
         .blank,
         gem.errorResponseTest ] ++
        eachAfterBlank gem.endpointTests) ]

end ClientGem.Gem
