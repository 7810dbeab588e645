import ClientGem.Gem.Credentials

/-!
The class that sends requests: one method for each verb, and the handling of responses.
-/

namespace ClientGem.Gem

open Api Ruby

def verbKeywords (verb : Verb) : List String :=
  if verb.hasBody then ["params", "body"] else ["params"]

def verbMethod (verb : Verb) : Item :=
  let keywords := verbKeywords verb
  method
    (verb.name ++ "(" ++ ", ".intercalate (keywords.map (· ++ ": " ++ emptyHash)) ++
      ", headers: " ++ emptyHash ++ ")")
    [ "make_request(:" ++ verb.name ++ ", " ++
        ", ".intercalate (keywords.map fun keyword => keyword ++ ": " ++ keyword) ++
        ", headers: headers)" ]

def makeRequest : Item :=
  .block ("def make_request(method, params: " ++ emptyHash ++ ", body: nil, headers: " ++
      emptyHash ++ ")")
    [ .block "response = connection.public_send(method) do |req|"
        [ .line "req.url @path",
          .line "req.params.update(params) if params && !params.empty?",
          .line "req.body = body.to_json if body && !body.empty?",
          .line "req.headers.update(headers) if headers && !headers.empty?",
          .line "req.options.timeout = @config.timeout" ],
      .blank,
      .line "handle_response(response)" ]

def connection (auth : AuthMode) : Item :=
  .block "def connection"
    [ .block "@connection ||= Faraday.new(url: @config.base_url) do |conn|"
        [ .line ("conn.headers.update(@config.headers || " ++ emptyHash ++ ")"),
          .lines (attachCredentials auth),
          .line "conn.response :json, content_type: /\\bjson$/",
          .line "conn.adapter Faraday.default_adapter" ] ]

def handleResponse (moduleName : String) : Item :=
  let status := "\"Error " ++ interpolated "response.status" ++ "\""
  .block "def handle_response(response)"
    [ .line "return response.body if response.status.between?(200, 299)",
      .blank,
      .line "body = response.body",
      .clause "message = if body.is_a?(Hash)"
        [.line ("body[\"message\"] || body[\"error\"] || " ++ status)]
        "else"
        [.line status],
      .blank,
      .line ("raise " ++ moduleName ++ "::Error.new(message, body, response.status)") ]

def requestSource (gem : Gem) : Source :=
  let auth := gem.api.auth
  Source.preamble ++
  [.line "require \"faraday\"", .line "require \"json\""] ++
  (credentialLibraries auth).map (fun library => .line ("require \"" ++ library ++ "\"")) ++
  [ .blank,
    .block ("module " ++ gem.moduleName)
      [ .block "class Request"
          ([ .line "attr_reader :path",
             .blank,
             method ("initialize(path, config = " ++ gem.moduleName ++ ".configuration)")
               ["@path = path", "@config = config"] ] ++
            eachAfterBlank (Verb.all.map verbMethod) ++
            [ .blank,
              .line "private",
              .blank,
              makeRequest,
              .blank,
              connection auth,
              .blank,
              handleResponse gem.moduleName ] ++
            (if auth = .oauth then .blank :: tokenMethods gem.moduleName gem.lowerName else [])) ] ]

end ClientGem.Gem
