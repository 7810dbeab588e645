import ClientGem.Gem.Credentials
import ClientGem.Gem.Method

/-!
The reference of a gem: every endpoint with its address, its parameters, and examples of a call
and of what to do with its result.
-/

namespace ClientGem.Gem

open Api Ruby

def joinLines (lines : List String) : String :=
  "\n".intercalate lines

def joinSections (sections : List String) : String :=
  "\n\n".intercalate sections ++ "\n"

def paramDescription (param : String) : String :=
  if param = "id" then "The unique identifier of the resource."
  else
    match param.toList.reverse with
    | 'd' :: 'i' :: '_' :: c :: owner =>
      "The identifier of the " ++ String.ofList (c :: owner).reverse ++ "."
    | _ => "Description not available."

def referenceHeader (gem : Gem) : String :=
  "# " ++ gem.moduleName ++ " API Documentation\n\n" ++
    "This document provides detailed information about the endpoints available in the " ++
    gem.moduleName ++ " API client.\n\n" ++
    "**API Base URL:** `" ++ gem.api.baseUrl ++ "`"

def referenceContents (gem : Gem) : String :=
  joinLines (["## Table of Contents", "", "- [Authentication](#authentication)"] ++
    gem.resourceNames.map fun name => "- [" ++ className name ++ "](#" ++ name ++ ")")

def referenceAuthentication (gem : Gem) : String :=
  joinLines (["## Authentication", ""] ++ credentialReference gem.moduleName gem.api)

def parameterLine : Parameter → String
  | .path name => "- `" ++ name ++ "` (path): Required. " ++ paramDescription name
  | .query => "- `params` (query): Optional hash of additional query parameters."
  | .body => "- `body`: Hash of resource attributes sent as the JSON request body."

def parameterLines (endpoint : Endpoint) : List String :=
  if (parameters endpoint).isEmpty then ["This endpoint does not require any parameters."]
  else (parameters endpoint).map parameterLine

def resultExample (name : String) (isCollection : Bool) (item : String) : List String :=
  if isCollection then
    [ "# Returns a Collection",
      "collection.each do |" ++ item ++ "|",
      "  puts " ++ item ++ ".id",
      "end",
      "",
      "# Pagination",
      "collection.next_page?  # true when more results are available",
      "collection.next_href   # reference to the next page" ]
  else if ["get", "find", "show"].contains name then
    ["# Returns a single Object", "puts " ++ item ++ ".id"]
  else if name = "create" then ["# Returns the created Object", "puts " ++ item ++ ".id"]
  else if name = "update" then ["# Returns the updated Object", "puts " ++ item ++ ".id"]
  else if ["delete", "destroy", "remove"].contains name then
    ["# Returns the API's confirmation payload wrapped in an Object"]
  else ["# Returns an Object wrapping the response body"]

def noDescription : String := "No description provided."

def endpointReference (gem : Gem) (resource : String) (endpoint : Endpoint) : String :=
  joinLines
    ([ "#### " ++ endpoint.name,
       "",
       "**" ++ endpoint.verb.upperName ++ "** `" ++ gem.address endpoint.path ++ "`",
       "",
       endpoint.description.getD noDescription,
       "",
       "**Parameters**",
       "" ] ++
      parameterLines endpoint ++
      [ "",
        "**Example Usage**",
        "",
        "```ruby",
        callOf resource endpoint Parameter.name,
        "```",
        "",
        "**Response**",
        "",
        "```ruby" ] ++
      resultExample endpoint.name endpoint.isCollection (singular resource) ++
      ["```"])

def resourceReference (gem : Gem) (name : String) (resource : Resource) : String :=
  "\n\n".intercalate
    (("<a name=\"" ++ name ++ "\"></a>\n### " ++ className name) ::
      if resource.endpoints.isEmpty then ["This resource has no endpoints."]
      else resource.endpoints.map (endpointReference gem name))

def reference (gem : Gem) : String :=
  joinSections
    ([referenceHeader gem, referenceContents gem, referenceAuthentication gem, "## Resources"] ++
      gem.resources.map fun (name, resource) => resourceReference gem name resource)

end ClientGem.Gem
