import ClientGem.Gem.Basic
import ClientGem.Ruby.Source

/-!
The classes that responses are wrapped in: objects, collections, and the error raised for a
response that reports a failure.
-/

namespace ClientGem.Gem

open Ruby

def errorSource (gem : Gem) : Source :=
  Source.preamble ++
  [ .block ("module " ++ gem.moduleName)
      [ .block "class Error < StandardError"
          [ .line "attr_reader :body, :status",
            .blank,
            method "initialize(message = nil, body = nil, status = nil)"
              ["@body = body", "@status = status", "super(message)"] ] ] ]

def objectSource (gem : Gem) : Source :=
  Source.preamble ++
  [ .line "require \"ostruct\"",
    .blank,
    .block ("module " ++ gem.moduleName)
      [ .block "class Object < OpenStruct"
          [ method ("initialize(attributes = " ++ emptyHash ++ ")")
              [ "attributes = " ++ emptyHash ++ " unless attributes.is_a?(Hash)",
                "super(attributes.to_h " ++ braced "|key, value| [key, wrap(value)]" ++ ")" ],
            .blank,
            .line "private",
            .blank,
            method "wrap(value)"
              [ "case value",
                "when Hash then OpenStruct.new(value.to_h " ++ braced "|k, v| [k, wrap(v)]" ++ ")",
                "when Array then value.map " ++ braced "|item| wrap(item)",
                "else value",
                "end" ] ] ] ]

def defaultDataKey : String := "data"

def defaultNextKey : String := "next_href"

/-- The signature takes two lines, the second aligned with the first parameter. -/
def fromResponseSignature : String :=
  let opening := "def self.from_response("
  opening ++ "response_body, type:, data_key: \"" ++ defaultDataKey ++ "\", next_key: \"" ++
    defaultNextKey ++ "\",\n" ++ String.ofList (List.replicate opening.length ' ') ++
    "total_key: nil, limit_key: nil)"

def collectionSource (gem : Gem) : Source :=
  Source.preamble ++
  [ .block ("module " ++ gem.moduleName)
      [ .block "class Collection"
          [ .line "include Enumerable",
            .blank,
            .line "attr_reader :data, :next_href, :total_count, :limit",
            .blank,
            .block fromResponseSignature
              [ .line "if response_body.is_a?(Array)",
                .line ("  return new(data: response_body.map " ++
                  braced "|attrs| type.new(attrs)" ++ ", next_href: nil)"),
                .line "end",
                .blank,
                .line ("body = response_body.is_a?(Hash) ? response_body : " ++ emptyHash),
                .line "items = fetch(body, data_key) || []",
                .blank,
                .lines
                  [ "new(",
                    "  data: items.map " ++ braced "|attrs| type.new(attrs)" ++ ",",
                    "  next_href: fetch(body, next_key),",
                    "  total_count: total_key && fetch(body, total_key),",
                    "  limit: limit_key && fetch(body, limit_key)",
                    ")" ] ],
            .blank,
            .block "def self.fetch(body, key)"
              [ .line "return nil if key.nil?",
                .blank,
                .line "body.key?(key.to_sym) ? body[key.to_sym] : body[key.to_s]" ],
            .line "private_class_method :fetch",
            .blank,
            method "initialize(data:, next_href:, total_count: nil, limit: nil)"
              [ "@data = data", "@next_href = next_href", "@total_count = total_count",
                "@limit = limit" ],
            .blank,
            method "next_page?" ["!next_href.nil? && next_href != \"\""],
            .blank,
            method "each(&block)" ["data.each(&block)"],
            .blank,
            method "size" ["data.size"] ] ] ]

end ClientGem.Gem
