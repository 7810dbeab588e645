import ClientGem.Api.Config
import ClientGem.Document.Reader

/-!
The description of an API read off a document value, record by record.
-/

namespace ClientGem.Api

open Document

namespace Pagination

def fields : List String := ["next_page_key", "total_count_key", "limit_key"]

def set (field : String) (value : Value) (record : Pagination) : Decoded Pagination := do
  let key ← optional (readText .text) value
  if field = "next_page_key" then .ok { record with nextPageKey := key }
  else if field = "total_count_key" then .ok { record with totalCountKey := key }
  else .ok { record with limitKey := key }

def decode (value : Value) : Decoded Pagination :=
  readRecord .pagination fields set {} value

end Pagination

namespace ResponseFormat

def fields : List String := ["collection_root", "item_root", "pagination"]

def set (field : String) (value : Value) (record : ResponseFormat) : Decoded ResponseFormat := do
  if field = "collection_root" then
    .ok { record with collectionRoot := ← optional (readText .text) value }
  else if field = "item_root" then
    .ok { record with itemRoot := ← optional (readText .text) value }
  else .ok { record with pagination := ← optional Pagination.decode value }

def decode (value : Value) : Decoded ResponseFormat :=
  readRecord .responseFormat fields set {} value

end ResponseFormat

def readVerb (value : Value) : Decoded Verb := do
  let raw ← readText .text value
  match Verb.read? raw with
  | some verb => .ok verb
  | none => .error (.unknownVerb raw)

namespace Endpoint

def fields : List String := ["name", "method", "path", "params", "collection", "description"]

abbrev Draft := Option String × Endpoint

def set (field : String) (value : Value) (draft : Draft) : Decoded Draft := do
  let (name, record) := draft
  if field = "name" then .ok (some (← readText .text value), record)
  else if field = "method" then .ok (name, { record with verb := ← orDefault .get readVerb value })
  else if field = "path" then
    .ok (name, { record with pathSetting := ← optional (readText .text) value })
  else if field = "params" then
    .ok (name, { record with params := ← orDefault false readBool value })
  else if field = "collection" then
    .ok (name, { record with collectionSetting := ← optional readBool value })
  else .ok (name, { record with description := ← optional (readText .text) value })

def decode (value : Value) : Decoded Endpoint := do
  match ← readRecord .endpoint fields set (none, { name := "" }) value with
  | (some name, record) => .ok { record with name := name }
  | (none, _) => .error .missingName

end Endpoint

namespace Resource

def fields : List String := ["endpoints", "response_format"]

def readEndpoints (value : Value) : Decoded (List Endpoint) := do
  (← readItems value).mapM Endpoint.decode

def set (field : String) (value : Value) (record : Resource) : Decoded Resource := do
  if field = "endpoints" then
    .ok { record with endpoints := ← orDefault [] readEndpoints value }
  else .ok { record with formatOverride := ← optional ResponseFormat.decode value }

def decode (value : Value) : Decoded Resource :=
  readRecord .resource fields set {} value

end Resource

/-- Entries in order; a repeated name replaces the earlier resource in its place. -/
def readResources : List (Value × Value) → ResourceTable → Decoded ResourceTable
  | [], table => .ok table
  | (key, value) :: rest, table => do
    let name ← readText .text key
    let resource ← orDefault {} Resource.decode value
    readResources rest (table.insert name resource)

def decodeResources (value : Value) : Decoded ResourceTable := do
  readResources (← readEntries .mapping value) .empty

namespace Config

def fields : List String :=
  ["api_name", "base_url", "auth_type", "token_url", "api_key_header", "response_format",
    "resources"]

def set (field : String) (value : Value) (record : Config) : Decoded Config := do
  if field = "api_name" then
    .ok { record with nameSetting := ← optional (readText .text) value }
  else if field = "base_url" then
    .ok { record with baseUrlSetting := ← optional (readText .text) value }
  else if field = "auth_type" then
    .ok { record with auth := AuthMode.ofSetting (← optional (readText .text) value) }
  else if field = "token_url" then
    .ok { record with tokenUrlSetting := ← optional (readText .text) value }
  else if field = "api_key_header" then
    .ok { record with apiKeyHeaderSetting := ← optional (readText .text) value }
  else if field = "response_format" then
    .ok { record with responseFormat := ← orDefault {} ResponseFormat.decode value }
  else .ok { record with resources := ← orDefault .empty decodeResources value }

/-- A document that holds nothing describes an API of which nothing is known. -/
def decode (value : Value) : Decoded Config :=
  readRecord .config fields set {} value

end Config

end ClientGem.Api
