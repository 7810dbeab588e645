import ClientGem.Api.Decode
import ClientGem.Proofs.Document.Record

/-!
Documents that describe the same API. In every record of a document, fields of which nothing is said
and fields that are not known may come or go, and the fields may come in any order.
-/

namespace ClientGem.Api

open Document

def Pagination.slots : Slots Pagination.fields Pagination.set where
  named :=
    [ ("next_page_key",
        ⟨_, optional (readText .text), fun key record => { record with nextPageKey := key }⟩),
      ("total_count_key",
        ⟨_, optional (readText .text), fun key record => { record with totalCountKey := key }⟩),
      ("limit_key",
        ⟨_, optional (readText .text), fun key record => { record with limitKey := key }⟩) ]
  names := rfl
  set_eq := by
    simp only [List.forall_mem_cons]
    exact ⟨fun _ _ => rfl, fun _ _ => rfl, fun _ _ => rfl, nofun⟩
  apart := by simp [Slot.Apart]

def ResponseFormat.slots : Slots ResponseFormat.fields ResponseFormat.set where
  named :=
    [ ("collection_root",
        ⟨_, optional (readText .text), fun key record => { record with collectionRoot := key }⟩),
      ("item_root",
        ⟨_, optional (readText .text), fun key record => { record with itemRoot := key }⟩),
      ("pagination",
        ⟨_, optional Pagination.decode, fun keys record => { record with pagination := keys }⟩) ]
  names := rfl
  set_eq := by
    simp only [List.forall_mem_cons]
    exact ⟨fun _ _ => rfl, fun _ _ => rfl, fun _ _ => rfl, nofun⟩
  apart := by simp [Slot.Apart]

def Endpoint.slots : Slots Endpoint.fields Endpoint.set where
  named :=
    [ ("name", ⟨_, readText .text, fun name draft => (some name, draft.2)⟩),
      ("method",
        ⟨_, orDefault .get readVerb, fun verb draft => (draft.1, { draft.2 with verb := verb })⟩),
      ("path", ⟨_, optional (readText .text),
        fun path draft => (draft.1, { draft.2 with pathSetting := path })⟩),
      ("params", ⟨_, orDefault false readBool,
        fun params draft => (draft.1, { draft.2 with params := params })⟩),
      ("collection", ⟨_, optional readBool,
        fun setting draft => (draft.1, { draft.2 with collectionSetting := setting })⟩),
      ("description", ⟨_, optional (readText .text),
        fun text draft => (draft.1, { draft.2 with description := text })⟩) ]
  names := rfl
  set_eq := by
    simp only [List.forall_mem_cons]
    exact ⟨fun _ _ => rfl, fun _ _ => rfl, fun _ _ => rfl, fun _ _ => rfl, fun _ _ => rfl,
      fun _ _ => rfl, nofun⟩
  apart := by simp [Slot.Apart]

def Resource.slots : Slots Resource.fields Resource.set where
  named :=
    [ ("endpoints", ⟨_, orDefault [] readEndpoints,
        fun endpoints record => { record with endpoints := endpoints }⟩),
      ("response_format", ⟨_, optional ResponseFormat.decode,
        fun format record => { record with formatOverride := format }⟩) ]
  names := rfl
  set_eq := by
    simp only [List.forall_mem_cons]
    exact ⟨fun _ _ => rfl, fun _ _ => rfl, nofun⟩
  apart := by simp [Slot.Apart]

def Config.slots : Slots Config.fields Config.set where
  named :=
    [ ("api_name",
        ⟨_, optional (readText .text), fun name record => { record with nameSetting := name }⟩),
      ("base_url",
        ⟨_, optional (readText .text), fun url record => { record with baseUrlSetting := url }⟩),
      ("auth_type", ⟨_, optional (readText .text),
        fun mode record => { record with auth := AuthMode.ofSetting mode }⟩),
      ("token_url",
        ⟨_, optional (readText .text), fun url record => { record with tokenUrlSetting := url }⟩),
      ("api_key_header", ⟨_, optional (readText .text),
        fun header record => { record with apiKeyHeaderSetting := header }⟩),
      ("response_format", ⟨_, orDefault {} ResponseFormat.decode,
        fun format record => { record with responseFormat := format }⟩),
      ("resources", ⟨_, orDefault .empty decodeResources,
        fun table record => { record with resources := table }⟩) ]
  names := rfl
  set_eq := by
    simp only [List.forall_mem_cons]
    exact ⟨fun _ _ => rfl, fun _ _ => rfl, fun _ _ => rfl, fun _ _ => rfl, fun _ _ => rfl,
      fun _ _ => rfl, fun _ _ => rfl, nofun⟩
  apart := by simp [Slot.Apart]

inductive Place where
  | config
  | resourceTable
  | resource
  | endpointList
  | endpoint
  | responseFormat
  | pagination
deriving DecidableEq

namespace Place

def Content : Place → Type
  | config => Config
  | resourceTable => ResourceTable
  | resource => Resource
  | endpointList => List Endpoint
  | endpoint => Endpoint
  | responseFormat => ResponseFormat
  | pagination => Pagination

def decode : (place : Place) → Value → Decoded place.Content
  | config => Config.decode
  | resourceTable => decodeResources
  | resource => Resource.decode
  | endpointList => Resource.readEndpoints
  | endpoint => Endpoint.decode
  | responseFormat => ResponseFormat.decode
  | pagination => Pagination.decode

/-- The fields of a record. The entries of the table of resources are no fields. -/
def fields? : Place → Option (List String)
  | config => some Config.fields
  | resource => some Resource.fields
  | endpoint => some Endpoint.fields
  | responseFormat => some ResponseFormat.fields
  | pagination => some Pagination.fields
  | resourceTable | endpointList => none

def part? : Place → String → Option Place
  | config, "response_format" => some responseFormat
  | config, "resources" => some resourceTable
  | resource, "endpoints" => some endpointList
  | resource, "response_format" => some responseFormat
  | responseFormat, "pagination" => some pagination
  | _, _ => none

end Place

/-- Two values that differ in one record, which may stand anywhere within them. -/
inductive Within (change : Place → List (Value × Value) → List (Value × Value) → Prop) :
    Place → Value → Value → Prop
  | here {place : Place} {entries others : List (Value × Value)}
      (changed : change place entries others) : Within change place (.map entries) (.map others)
  | behindTag {place : Place} {value other : Value} (tag : String)
      (inside : Within change place value other) :
      Within change place (.tagged tag value) (.tagged tag other)
  | inField {place part : Place} {key value other : Value} {field : String}
      (named : key.field? = some field) (isPart : place.part? field = some part)
      (inside : Within change part value other) (before after : List (Value × Value)) :
      Within change place (.map (before ++ (key, value) :: after))
        (.map (before ++ (key, other) :: after))
  | inTable {value other : Value} (key : Value) (inside : Within change .resource value other)
      (before after : List (Value × Value)) :
      Within change .resourceTable (.map (before ++ (key, value) :: after))
        (.map (before ++ (key, other) :: after))
  | inList {value other : Value} (inside : Within change .endpoint value other)
      (before after : List Value) :
      Within change .endpointList (.seq (before ++ value :: after))
        (.seq (before ++ other :: after))

/-- A record with and without an entry that says nothing: a null for a field that need not be given
and that no other entry names, or an entry for a field that is not known. -/
inductive Unsaid (place : Place) : List (Value × Value) → List (Value × Value) → Prop
  | null {fields : List String} {key : Value} {field : String} {before after : List (Value × Value)}
      (record : place.fields? = some fields) (named : key.field? = some field)
      (isKnown : field ∈ fields) (optional : ¬(place = .endpoint ∧ field = "name"))
      (alone : ∀ entry ∈ before ++ after, entry.1.field? ≠ some field) :
      Unsaid place (before ++ (key, .null) :: after) (before ++ after)
  | unknown {fields : List String} {key value : Value} {name : String}
      {before after : List (Value × Value)}
      (record : place.fields? = some fields) (named : key.field? = some name)
      (notKnown : name ∉ fields) :
      Unsaid place (before ++ after) (before ++ (key, value) :: after)

def Reordered (place : Place) (entries others : List (Value × Value)) : Prop :=
  place.fields?.isSome ∧ entries.Perm others

theorem decode_tagged (place : Place) (tag : String) (value : Value) :
    place.decode (.tagged tag value) = place.decode value := by
  cases place <;> rfl

section Within

variable {change : Place → List (Value × Value) → List (Value × Value) → Prop} {faults : Bool}

theorem Within.isNull {place : Place} {value other : Value}
    (within : Within change place value other) : value.isNull = false ∧ other.isNull = false := by
  cases within <;> exact ⟨rfl, rfl⟩

theorem follows_readResources {value other : Value}
    (follows : Follows faults (orDefault {} Resource.decode value)
      (orDefault {} Resource.decode other)) (key : Value) (before after : List (Value × Value))
    (table : ResourceTable) :
    Follows faults (readResources (before ++ (key, value) :: after) table)
      (readResources (before ++ (key, other) :: after) table) := by
  induction before generalizing table with
  | nil =>
    apply (Follows.refl faults (readText .text key)).bind
    intro name
    exact follows.bind fun resource => Follows.refl faults _
  | cons entry before ih =>
    apply (Follows.refl faults (readText .text entry.1)).bind
    intro name
    apply (Follows.refl faults (orDefault {} Resource.decode entry.2)).bind
    intro resource
    exact ih _

theorem follows_mapM {value other : Value}
    (follows : Follows faults (Endpoint.decode value) (Endpoint.decode other))
    (before after : List Value) :
    Follows faults ((before ++ value :: after).mapM Endpoint.decode)
      ((before ++ other :: after).mapM Endpoint.decode) := by
  induction before with
  | nil =>
    rw [List.nil_append, List.nil_append, List.mapM_cons, List.mapM_cons]
    exact follows.bind fun endpoint => Follows.refl faults _
  | cons first before ih =>
    rw [List.cons_append, List.cons_append, List.mapM_cons, List.mapM_cons]
    apply (Follows.refl faults (Endpoint.decode first)).bind
    intro endpoint
    exact ih.bind fun endpoints => Follows.refl faults _

/-- The value of a field that has parts follows another when the part does. -/
theorem follows_inField {place part : Place} {field : String} {key value other : Value}
    (named : key.field? = some field) (isPart : place.part? field = some part)
    (said : value.isNull = false) (still : other.isNull = false)
    (follows : Follows faults (part.decode value) (part.decode other))
    (before after : List (Value × Value)) :
    Follows faults (place.decode (.map (before ++ (key, value) :: after)))
      (place.decode (.map (before ++ (key, other) :: after))) := by
  unfold Place.part? at isPart
  split at isPart <;> cases isPart
  · apply readFields_follows named
    intro record
    exact (follows.orDefault said still).bind fun format => Follows.refl faults _
  · apply readFields_follows named
    intro record
    exact (follows.orDefault said still).bind fun table => Follows.refl faults _
  · apply readFields_follows named
    intro record
    exact (follows.orDefault said still).bind fun endpoints => Follows.refl faults _
  · apply readFields_follows named
    intro record
    exact (follows.optional said still).bind fun format => Follows.refl faults _
  · apply readFields_follows named
    intro record
    exact (follows.optional said still).bind fun keys => Follows.refl faults _

/-- What is read of a record within a document decides what is read of the document. -/
theorem Within.follows
    (base : ∀ {place : Place} {entries others : List (Value × Value)}, change place entries others →
      Follows faults (place.decode (.map entries)) (place.decode (.map others)))
    {place : Place} {value other : Value} (within : Within change place value other) :
    Follows faults (place.decode value) (place.decode other) := by
  induction within with
  | here changed => exact base changed
  | behindTag tag inside ih =>
    rw [decode_tagged, decode_tagged]
    exact ih
  | inField named isPart inside before after ih =>
    exact follows_inField named isPart inside.isNull.1 inside.isNull.2 ih before after
  | inTable key inside before after ih =>
    exact follows_readResources (ih.orDefault inside.isNull.1 inside.isNull.2) key before after _
  | inList inside before after ih =>
    exact follows_mapM ih before after

end Within

/-- A record as it is read: field by field into their slots, and then as a whole. -/
structure Reading (place : Place) (fields : List String) where
  Draft : Type
  set : String → Value → Draft → Decoded Draft
  slots : Slots fields set
  start : Draft
  finish : Draft → Decoded place.Content
  decode_eq : ∀ entries,
    place.decode (.map entries) = readFields fields set [] entries start >>= finish
  /-- Only the name of an endpoint has to be given. -/
  unset : ∀ field ∈ fields, ¬(place = .endpoint ∧ field = "name") →
    set field .null start = .ok start

theorem bind_ok_self {α : Type} (reading : Decoded α) : reading >>= .ok = reading := by
  cases reading <;> rfl

def Reading.config : Reading .config Config.fields where
  Draft := Config
  set := Config.set
  slots := Config.slots
  start := {}
  finish := .ok
  decode_eq _ := (bind_ok_self _).symm
  unset := by
    simp only [Config.fields, List.forall_mem_cons]
    exact ⟨fun _ => rfl, fun _ => rfl, fun _ => rfl, fun _ => rfl, fun _ => rfl, fun _ => rfl,
      fun _ => rfl, nofun⟩

def Reading.resource : Reading .resource Resource.fields where
  Draft := Resource
  set := Resource.set
  slots := Resource.slots
  start := {}
  finish := .ok
  decode_eq _ := (bind_ok_self _).symm
  unset := by
    simp only [Resource.fields, List.forall_mem_cons]
    exact ⟨fun _ => rfl, fun _ => rfl, nofun⟩

def Reading.endpoint : Reading .endpoint Endpoint.fields where
  Draft := Endpoint.Draft
  set := Endpoint.set
  slots := Endpoint.slots
  start := (none, { name := "" })
  finish
    | (some name, record) => .ok { record with name := name }
    | (none, _) => .error .missingName
  decode_eq _ := rfl
  unset := by
    simp only [Endpoint.fields, List.forall_mem_cons]
    exact ⟨by simp, fun _ => rfl, fun _ => rfl, fun _ => rfl,
      fun _ => rfl, fun _ => rfl, nofun⟩

def Reading.responseFormat : Reading .responseFormat ResponseFormat.fields where
  Draft := ResponseFormat
  set := ResponseFormat.set
  slots := ResponseFormat.slots
  start := {}
  finish := .ok
  decode_eq _ := (bind_ok_self _).symm
  unset := by
    simp only [ResponseFormat.fields, List.forall_mem_cons]
    exact ⟨fun _ => rfl, fun _ => rfl, fun _ => rfl, nofun⟩

def Reading.pagination : Reading .pagination Pagination.fields where
  Draft := Pagination
  set := Pagination.set
  slots := Pagination.slots
  start := {}
  finish := .ok
  decode_eq _ := (bind_ok_self _).symm
  unset := by
    simp only [Pagination.fields, List.forall_mem_cons]
    exact ⟨fun _ => rfl, fun _ => rfl, fun _ => rfl, nofun⟩

theorem exists_reading {place : Place} {fields : List String}
    (record : place.fields? = some fields) : Nonempty (Reading place fields) := by
  cases place <;> cases record
  · exact ⟨.config⟩
  · exact ⟨.resource⟩
  · exact ⟨.endpoint⟩
  · exact ⟨.responseFormat⟩
  · exact ⟨.pagination⟩

theorem decode_of_unsaid {place : Place} {entries others : List (Value × Value)}
    (unsaid : Unsaid place entries others) :
    place.decode (.map entries) = place.decode (.map others) := by
  cases unsaid with
  | null record named isKnown optional alone =>
    obtain ⟨reading⟩ := exists_reading record
    rw [reading.decode_eq, reading.decode_eq]
    exact congrArg (· >>= reading.finish) (reading.slots.readFields_null named isKnown
      List.not_mem_nil alone (reading.unset _ isKnown optional))
  | unknown record named notKnown =>
    obtain ⟨reading⟩ := exists_reading record
    rw [reading.decode_eq, reading.decode_eq]
    exact congrArg (· >>= reading.finish) (readFields_unknown named notKnown _ _ _ _).symm

theorem decode_of_reordered {place : Place} {entries others : List (Value × Value)}
    (reordered : Reordered place entries others) {content : place.Content}
    (accepted : place.decode (.map entries) = .ok content) :
    place.decode (.map others) = .ok content := by
  obtain ⟨isRecord, perm⟩ := reordered
  obtain ⟨fields, record⟩ := Option.isSome_iff_exists.mp isRecord
  obtain ⟨reading⟩ := exists_reading record
  rw [reading.decode_eq] at accepted ⊢
  cases read : readFields fields reading.set [] entries reading.start with
  | error fault =>
    rw [read] at accepted
    cases accepted
  | ok draft =>
    rw [read] at accepted
    rw [reading.slots.readFields_perm perm read]
    exact accepted

/-- A description is the same, and a fault is, with and without entries that say nothing, wherever
they stand in the document; and what is described does not depend on the order of fields. -/
theorem decode_blind (document other : Value) :
    (Within Unsaid .config document other → Config.decode document = Config.decode other) ∧
      (Within Reordered .config document other → ∀ config, Config.decode document = .ok config →
        Config.decode other = .ok config) := by
  constructor
  · intro within
    have follows : Follows true (Place.config.decode document) (Place.config.decode other) :=
      within.follows fun unsaid => .of_eq (decode_of_unsaid unsaid)
    exact follows.eq
  · intro within config accepted
    have follows : Follows false (Place.config.decode document) (Place.config.decode other) := by
      apply within.follows
      intro place entries others reordered
      exact .of_accepted fun content => decode_of_reordered reordered
    exact follows.ok accepted

def catalogue (endpoint : List (Value × Value)) : Value :=
  .map [(.text "resources",
    .map [(.text "users", .map [(.text "endpoints", .tagged "x" (.seq [.map endpoint]))])])]

theorem within_catalogue {change : Place → List (Value × Value) → List (Value × Value) → Prop}
    {entries others : List (Value × Value)} (changed : change .endpoint entries others) :
    Within change .config (catalogue entries) (catalogue others) := by
  have resources : (Value.text "resources").field? = some "resources" := rfl
  have endpoints : (Value.text "endpoints").field? = some "endpoints" := rfl
  have inList : Within change .endpointList (.tagged "x" (.seq [.map entries]))
      (.tagged "x" (.seq [.map others])) :=
    .behindTag "x" (.inList (.here changed) [] [])
  have inResource : Within change .resource
      (.map [(.text "endpoints", .tagged "x" (.seq [.map entries]))])
      (.map [(.text "endpoints", .tagged "x" (.seq [.map others]))]) :=
    .inField endpoints rfl inList [] []
  exact .inField resources rfl (.inTable (.text "users") inResource [] []) [] []

/-- An endpoint without a path, whose entries come in another order. -/
theorem decode_blind_catalogue :
    Within Unsaid .config
        (catalogue [(.text "path", .null), (.text "name", .text "list")])
        (catalogue [(.text "name", .text "list")]) ∧
      Config.decode (catalogue [(.text "path", .null), (.text "name", .text "list")]) =
        Config.decode (catalogue [(.text "name", .text "list")]) ∧
      Within Reordered .config
        (catalogue [(.text "path", .null), (.text "name", .text "list")])
        (catalogue [(.text "name", .text "list"), (.text "path", .null)]) ∧
      Config.decode (catalogue [(.text "name", .text "list"), (.text "path", .null)]) =
        .ok { resources := .insert .empty "users" { endpoints := [{ name := "list" }] } } := by
  have named : (Value.text "path").field? = some "path" := rfl
  have absent : Unsaid .endpoint ([] ++ (.text "path", .null) :: [(.text "name", .text "list")])
      ([] ++ [(.text "name", .text "list")]) :=
    .null rfl named (by decide) (by decide) (by decide)
  have unsaid : Within Unsaid .config
      (catalogue [(.text "path", .null), (.text "name", .text "list")])
      (catalogue [(.text "name", .text "list")]) :=
    within_catalogue absent
  have reordered : Within Reordered .config
      (catalogue [(.text "path", .null), (.text "name", .text "list")])
      (catalogue [(.text "name", .text "list"), (.text "path", .null)]) :=
    within_catalogue ⟨rfl, .swap _ _ _⟩
  have accepted : Config.decode (catalogue [(.text "path", .null), (.text "name", .text "list")]) =
      .ok { resources := .insert .empty "users" { endpoints := [{ name := "list" }] } } := by
    decide +kernel
  exact ⟨unsaid, (decode_blind _ _).1 unsaid, reordered,
    (decode_blind _ _).2 reordered _ accepted⟩

/-- A key behind a tag names the same field as the key without it, and a field that is named twice
is refused: a null can count where another entry names its field. -/
theorem exists_null_that_counts :
    Config.decode (.map [(.text "api_name", .null), (.tagged "x" (.text "api_name"), .text "shop")]) =
        .error (.repeatedField "api_name") ∧
      Config.decode (.map [(.tagged "x" (.text "api_name"), .text "shop")]) =
        .ok { nameSetting := some "shop" } := by
  decide +kernel

end ClientGem.Api
