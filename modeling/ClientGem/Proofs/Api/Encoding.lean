import ClientGem.Api.Decode
import ClientGem.Proofs.Document.Fields

/-!
Descriptions of APIs written as document values. A setting that is not given is left out, while a
format or a pagination that is given without any key is written as an empty mapping. To decode what
has been written gives the description back.
-/

namespace ClientGem.Api

open Document

namespace Pagination

def written (keys : Pagination) : List (String × Option Value) :=
  [ ("next_page_key", keys.nextPageKey.map .text),
    ("total_count_key", keys.totalCountKey.map .text),
    ("limit_key", keys.limitKey.map .text) ]

def encode (keys : Pagination) : Value :=
  .map (entriesOf keys.written)

theorem nodup_fields : fields.Nodup := by decide

theorem decode_encode (keys : Pagination) : decode keys.encode = .ok keys := by
  apply readRecord_entriesOf (by rfl) nodup_fields
  apply foldlM_setField_cons (setField_text (fun key record => { record with nextPageKey := key })
    (fun _ _ => rfl) keys.nextPageKey rfl)
  apply foldlM_setField_cons (setField_text (fun key record => { record with totalCountKey := key })
    (fun _ _ => rfl) keys.totalCountKey rfl)
  apply foldlM_setField_cons (setField_text (fun key record => { record with limitKey := key })
    (fun _ _ => rfl) keys.limitKey rfl)
  rfl

end Pagination

namespace ResponseFormat

def written (format : ResponseFormat) : List (String × Option Value) :=
  [ ("collection_root", format.collectionRoot.map .text),
    ("item_root", format.itemRoot.map .text),
    ("pagination", format.pagination.map Pagination.encode) ]

def encode (format : ResponseFormat) : Value :=
  .map (entriesOf format.written)

theorem nodup_fields : fields.Nodup := by decide

theorem decode_encode (format : ResponseFormat) : decode format.encode = .ok format := by
  apply readRecord_entriesOf (by rfl) nodup_fields
  apply foldlM_setField_cons (setField_text
    (fun root record => { record with collectionRoot := root }) (fun _ _ => rfl)
    format.collectionRoot rfl)
  apply foldlM_setField_cons (setField_text (fun root record => { record with itemRoot := root })
    (fun _ _ => rfl) format.itemRoot rfl)
  apply foldlM_setField_cons (setField_optional
    (fun keys record => { record with pagination := keys }) (fun _ _ => rfl)
    Pagination.decode_encode (fun _ => rfl) format.pagination rfl)
  rfl

end ResponseFormat

namespace Verb

def encode (verb : Verb) : Value :=
  .text verb.name

theorem read?_name (verb : Verb) : read? verb.name = some verb := by
  cases verb <;> decide +kernel

theorem readVerb_encode (verb : Verb) : readVerb verb.encode = .ok verb := by
  have raw : readText .text verb.encode = .ok verb.name := rfl
  simp [readVerb, raw, read?_name, bind, Except.bind]

end Verb

namespace Endpoint

def written (endpoint : Endpoint) : List (String × Option Value) :=
  [ ("name", some (.text endpoint.name)),
    ("method", some endpoint.verb.encode),
    ("path", endpoint.pathSetting.map .text),
    ("params", some (.bool endpoint.params)),
    ("collection", endpoint.collectionSetting.map .bool),
    ("description", endpoint.description.map .text) ]

def encode (endpoint : Endpoint) : Value :=
  .map (entriesOf endpoint.written)

theorem nodup_fields : fields.Nodup := by decide

theorem readBool_bool (b : Bool) : readBool (.bool b) = .ok b :=
  rfl

theorem readRecord_encode (endpoint : Endpoint) :
    readRecord .endpoint fields set (none, { name := "" }) endpoint.encode =
      .ok (some endpoint.name, { endpoint with name := "" }) := by
  have name : readText .text (.text endpoint.name) = .ok endpoint.name := rfl
  have verb := orDefault_write Verb.readVerb_encode (fun _ => rfl) .get endpoint.verb
  have params := orDefault_write readBool_bool (fun _ => rfl) false endpoint.params
  apply readRecord_entriesOf (by rfl) nodup_fields
  apply foldlM_setField_cons (setField_given (fun name draft => (some name, draft.2))
    (fun _ _ => rfl) name)
  apply foldlM_setField_cons (setField_given
    (fun verb draft => (draft.1, { draft.2 with verb := verb })) (fun _ _ => rfl) verb)
  apply foldlM_setField_cons (setField_text
    (fun path draft => (draft.1, { draft.2 with pathSetting := path })) (fun _ _ => rfl)
    endpoint.pathSetting rfl)
  apply foldlM_setField_cons (setField_given
    (fun params draft => (draft.1, { draft.2 with params := params })) (fun _ _ => rfl) params)
  apply foldlM_setField_cons (setField_optional
    (fun setting draft => (draft.1, { draft.2 with collectionSetting := setting }))
    (fun _ _ => rfl) readBool_bool (fun _ => rfl) endpoint.collectionSetting rfl)
  apply foldlM_setField_cons (setField_text
    (fun text draft => (draft.1, { draft.2 with description := text })) (fun _ _ => rfl)
    endpoint.description rfl)
  rfl

theorem decode_encode (endpoint : Endpoint) : decode endpoint.encode = .ok endpoint := by
  rw [decode, readRecord_encode]
  rfl

end Endpoint

namespace Resource

def written (resource : Resource) : List (String × Option Value) :=
  [ ("endpoints", some (.seq (resource.endpoints.map Endpoint.encode))),
    ("response_format", resource.formatOverride.map ResponseFormat.encode) ]

def encode (resource : Resource) : Value :=
  .map (entriesOf resource.written)

theorem nodup_fields : fields.Nodup := by decide

theorem readEndpoints_seq (endpoints : List Endpoint) :
    readEndpoints (.seq (endpoints.map Endpoint.encode)) = .ok endpoints :=
  mapM_map_write Endpoint.decode_encode endpoints

theorem decode_encode (resource : Resource) : decode resource.encode = .ok resource := by
  have endpoints := orDefault_write readEndpoints_seq (fun _ => rfl) [] resource.endpoints
  apply readRecord_entriesOf (by rfl) nodup_fields
  apply foldlM_setField_cons (setField_given
    (fun endpoints record => { record with endpoints := endpoints }) (fun _ _ => rfl) endpoints)
  apply foldlM_setField_cons (setField_optional
    (fun format record => { record with formatOverride := format }) (fun _ _ => rfl)
    ResponseFormat.decode_encode (fun _ => rfl) resource.formatOverride rfl)
  rfl

end Resource

theorem putNamed_of_not_mem {α : Type} {name : String} {entries : List (String × α)}
    (new : name ∉ entries.map Prod.fst) (value : α) :
    putNamed name value entries = entries ++ [(name, value)] := by
  induction entries with
  | nil => rfl
  | cons entry entries ih =>
    rw [List.map_cons, List.mem_cons, not_or] at new
    rw [putNamed, if_neg (Ne.symm new.1), ih new.2, List.cons_append]

namespace ResourceTable

def encode (table : ResourceTable) : Value :=
  .map (table.entries.map fun entry => (.text entry.1, entry.2.encode))

theorem readResources_encode {entries : List (String × Resource)} {before table : ResourceTable}
    (whole : before.entries ++ entries = table.entries) :
    readResources (entries.map fun entry => (.text entry.1, entry.2.encode)) before =
      .ok table := by
  induction entries generalizing before with
  | nil =>
    rw [List.append_nil] at whole
    cases before
    cases table
    cases whole
    rfl
  | cons entry entries ih =>
    have distinct := table.names_nodup
    rw [← whole, List.map_append, List.map_cons] at distinct
    have new : entry.1 ∉ before.entries.map Prod.fst := by
      intro member
      exact (List.nodup_append.mp distinct).2.2 _ member _ List.mem_cons_self rfl
    have inserted : (before.insert entry.1 entry.2).entries ++ entries = table.entries := by
      change putNamed entry.1 entry.2 before.entries ++ entries = table.entries
      rw [putNamed_of_not_mem new, List.append_assoc]
      exact whole
    have name : readText .text (.text entry.1) = .ok entry.1 := rfl
    have body := orDefault_write Resource.decode_encode (fun _ => rfl) {} entry.2
    rw [List.map_cons, readResources, name, body]
    exact ih inserted

theorem decode_encode (table : ResourceTable) : decodeResources table.encode = .ok table :=
  readResources_encode (List.nil_append table.entries)

end ResourceTable

namespace AuthMode

def encode (mode : AuthMode) : Value :=
  .text mode.name

theorem ofSetting_name (mode : AuthMode) : ofSetting (some mode.name) = mode := by
  cases mode <;> decide +kernel

def readMode (value : Value) : Decoded AuthMode :=
  ofSetting <$> optional (readText .text) value

theorem readMode_encode (mode : AuthMode) : readMode mode.encode = .ok mode :=
  congrArg Except.ok (ofSetting_name mode)

end AuthMode

namespace Config

def written (config : Config) : List (String × Option Value) :=
  [ ("api_name", config.nameSetting.map .text),
    ("base_url", config.baseUrlSetting.map .text),
    ("auth_type", some config.auth.encode),
    ("token_url", config.tokenUrlSetting.map .text),
    ("api_key_header", config.apiKeyHeaderSetting.map .text),
    ("response_format", some config.responseFormat.encode),
    ("resources", some config.resources.encode) ]

def encode (config : Config) : Value :=
  .map (entriesOf config.written)

theorem nodup_fields : fields.Nodup := by decide

theorem set_auth (value : Value) (record : Config) : set "auth_type" value record =
    (do .ok { record with auth := ← AuthMode.readMode value }) := by
  have filled : set "auth_type" value record =
      (do .ok { record with auth := AuthMode.ofSetting (← optional (readText .text) value) }) := rfl
  rw [filled, AuthMode.readMode]
  cases optional (readText .text) value <;> rfl

/-- Whatever a description says, its document is accepted and says the same: the order of resources
and endpoints is kept, and an empty format or pagination is told from one that is not given. -/
theorem roundTrip (config : Config) : decode config.encode = .ok config := by
  have format := orDefault_write ResponseFormat.decode_encode (fun _ => rfl) {}
    config.responseFormat
  have table := orDefault_write ResourceTable.decode_encode (fun _ => rfl) .empty config.resources
  apply readRecord_entriesOf (by rfl) nodup_fields
  apply foldlM_setField_cons (setField_text (fun name record => { record with nameSetting := name })
    (fun _ _ => rfl) config.nameSetting rfl)
  apply foldlM_setField_cons (setField_text
    (fun url record => { record with baseUrlSetting := url }) (fun _ _ => rfl)
    config.baseUrlSetting rfl)
  apply foldlM_setField_cons (setField_given
    (fun mode record => { record with auth := mode }) set_auth (AuthMode.readMode_encode _))
  apply foldlM_setField_cons (setField_text
    (fun url record => { record with tokenUrlSetting := url }) (fun _ _ => rfl)
    config.tokenUrlSetting rfl)
  apply foldlM_setField_cons (setField_text
    (fun header record => { record with apiKeyHeaderSetting := header }) (fun _ _ => rfl)
    config.apiKeyHeaderSetting rfl)
  apply foldlM_setField_cons (setField_given
    (fun format record => { record with responseFormat := format }) (fun _ _ => rfl) format)
  apply foldlM_setField_cons (setField_given
    (fun table record => { record with resources := table }) (fun _ _ => rfl) table)
  rfl

end Config

end ClientGem.Api
