import ClientGem.Gem.Basic
import ClientGem.Ruby.Name
import ClientGem.Ruby.Source

/-!
What each mode of authentication adds to the files of a gem: settings, the lines that attach the
credentials to a request, and examples.
-/

namespace ClientGem.Gem

open Api Ruby

def credentialAttributes : AuthMode → List String
  | .none => []
  | .basic => ["username", "password"]
  | .apiKey => ["api_key", "api_key_header"]
  | .oauth => ["client_id", "client_secret", "token_url", "access_token"]

def credentialDefaults (api : Config) : List String :=
  match api.auth with
  | .none => []
  | .basic => ["@username = nil", "@password = nil"]
  | .apiKey => ["@api_key = nil", "@api_key_header = " ++ stringLiteral api.apiKeyHeader]
  | .oauth =>
    ["@client_id = nil", "@client_secret = nil", "@token_url = " ++ stringLiteral api.tokenUrl,
      "@access_token = nil"]

def attachCredentials : AuthMode → List String
  | .none => []
  | .basic =>
    ["conn.request :authorization, :basic, @config.username, @config.password " ++
      "if @config.username && @config.password"]
  | .apiKey => ["conn.headers[@config.api_key_header] = @config.api_key if @config.api_key"]
  | .oauth => ["token = access_token", "conn.request :authorization, \"Bearer\", token if token"]

def credentialLibraries : AuthMode → List String
  | .oauth => ["uri"]
  | _ => []

def tokenMethods (moduleName lowerName : String) : Source :=
  let cacheKey := stringLiteral (lowerName ++ "_access_token")
  [ .block "def access_token"
      [ .line "return @config.access_token if @config.access_token",
        .line "return nil unless @config.client_id && @config.client_secret",
        .blank,
        .line ("cached = cache.read(" ++ cacheKey ++ ")"),
        .line "return cached if cached",
        .blank,
        .line "token = fetch_access_token",
        .line ("cache.write(" ++ cacheKey ++ ", token)"),
        .line "token" ],
    .blank,
    .block "def fetch_access_token"
      [ .block "response = Faraday.post(@config.token_url) do |req|"
          [ .line "req.headers[\"Content-Type\"] = \"application/x-www-form-urlencoded\"",
            .line "req.headers[\"Accept\"] = \"application/json\"",
            .lines
              [ "req.body = URI.encode_www_form(",
                "  grant_type: \"client_credentials\",",
                "  client_id: @config.client_id,",
                "  client_secret: @config.client_secret",
                ")" ] ],
        .blank,
        .line "body = parse_token_body(response.body)",
        .line "token = body[\"access_token\"] if body.is_a?(Hash)",
        .line "return token if response.status.between?(200, 299) && token",
        .blank,
        .line ("raise " ++ moduleName ++
          "::Error.new(\"Unable to obtain access token\", body, response.status)") ],
    .blank,
    .clause "def parse_token_body(raw)"
      [ .line "return raw unless raw.is_a?(String) && !raw.empty?",
        .blank,
        .line "JSON.parse(raw)" ]
      "rescue JSON::ParserError"
      [ .line "raw" ],
    .blank,
    method "cache" ["@config.cache || " ++ moduleName ++ ".cache"] ]

def credentialExample (api : Config) : List String :=
  match api.auth with
  | .none => ["# No authentication required"]
  | .basic => ["config.username = \"your_username\"", "config.password = \"your_password\""]
  | .apiKey =>
    ["config.api_key = \"your_api_key\"",
      "config.api_key_header = " ++ stringLiteral api.apiKeyHeader]
  | .oauth =>
    ["config.client_id = \"your_client_id\"", "config.client_secret = \"your_client_secret\"",
      "# Or skip the token request with a pre-issued token:",
      "# config.access_token = \"your_access_token\""]

/-- Prose and settings for the reference: the first says what is needed, the second how to give
it. -/
def credentialGuide (moduleName : String) (api : Config) : String × List String :=
  match api.auth with
  | .none => ("This API does not require authentication.", [])
  | .basic =>
    ("This API uses HTTP Basic Authentication.",
      ["config.username = \"YOUR_USERNAME\"", "config.password = \"YOUR_PASSWORD\""])
  | .apiKey =>
    ("This API uses API Key authentication. The key should be provided in the `" ++
        api.apiKeyHeader ++ "` header.",
      ["config.api_key = \"YOUR_API_KEY\""])
  | .oauth =>
    ("This API uses OAuth 2.0 (client credentials). Access tokens are requested from `" ++
        api.tokenUrl ++ "` and cached in `" ++ moduleName ++ ".cache`.",
      ["config.client_id = \"YOUR_CLIENT_ID\"", "config.client_secret = \"YOUR_CLIENT_SECRET\""])

def credentialReference (moduleName : String) (api : Config) : List String :=
  let (intro, settings) := credentialGuide moduleName api
  if settings.isEmpty then [intro]
  else
    [intro, "", "```ruby", moduleName ++ ".configure do |config|"] ++
      settings.map ("  " ++ ·) ++ ["end", "```"]

def credentialTestSettings (api : Config) : List String :=
  match api.auth with
  | .none => []
  | .basic => ["config.username = \"test_username\"", "config.password = \"test_password\""]
  | .apiKey =>
    ["config.api_key = \"test_api_key\"",
      "config.api_key_header = " ++ stringLiteral api.apiKeyHeader]
  | .oauth =>
    ["config.client_id = \"test_client_id\"", "config.client_secret = \"test_client_secret\"",
      "config.token_url = " ++ stringLiteral api.tokenUrl]

def checkedCredentials : AuthMode → List (String × String)
  | .none => []
  | .basic => [("test_username", "username"), ("test_password", "password")]
  | .apiKey => [("test_api_key", "api_key")]
  | .oauth => [("test_client_id", "client_id"), ("test_client_secret", "client_secret")]

def credentialAssertions (moduleName : String) (api : Config) : List String :=
  (checkedCredentials api.auth).map fun (value, setting) =>
    "assert_equal \"" ++ value ++ "\", " ++ moduleName ++ ".configuration." ++ setting

end ClientGem.Gem
