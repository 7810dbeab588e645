import ClientGem.Api.Verb

/-!
Resources, their endpoints, and where they keep their data within a response body. A resource may
override the format of the whole API: each root falls back on its own, while the paging keys are
taken as one. A table of resources holds each name once, in the order in which the names were first
given.
-/

namespace ClientGem.Api

structure Pagination where
  nextPageKey : Option String := none
  totalCountKey : Option String := none
  limitKey : Option String := none
deriving DecidableEq, Repr, Inhabited

structure ResponseFormat where
  collectionRoot : Option String := none
  itemRoot : Option String := none
  pagination : Option Pagination := none
deriving DecidableEq, Repr, Inhabited

namespace ResponseFormat

def mergedWith (format fallback : ResponseFormat) : ResponseFormat where
  collectionRoot := format.collectionRoot.or fallback.collectionRoot
  itemRoot := format.itemRoot.or fallback.itemRoot
  pagination := format.pagination.or fallback.pagination

def nextPageKey (format : ResponseFormat) : Option String :=
  format.pagination.bind (·.nextPageKey)

def totalCountKey (format : ResponseFormat) : Option String :=
  format.pagination.bind (·.totalCountKey)

def limitKey (format : ResponseFormat) : Option String :=
  format.pagination.bind (·.limitKey)

end ResponseFormat

structure Endpoint where
  name : String
  verb : Verb := .get
  pathSetting : Option String := none
  params : Bool := false
  collectionSetting : Option Bool := none
  description : Option String := none
deriving DecidableEq, Repr, Inhabited

namespace Endpoint

def path (endpoint : Endpoint) : String :=
  endpoint.pathSetting.getD endpoint.name

def collectionNames : List String :=
  ["all", "list", "index", "search"]

def isCollectionName (name : String) (setting : Option Bool) : Bool :=
  setting.getD (collectionNames.contains name)

def isCollection (endpoint : Endpoint) : Bool :=
  isCollectionName endpoint.name endpoint.collectionSetting

end Endpoint

structure Resource where
  endpoints : List Endpoint := []
  formatOverride : Option ResponseFormat := none
deriving DecidableEq, Repr, Inhabited

def Resource.format (resource : Resource) (whole : ResponseFormat) : ResponseFormat :=
  match resource.formatOverride with
  | some format => format.mergedWith whole
  | none => whole

/-- Puts a value under a name: in the place of the value it replaces, or at the end. -/
def putNamed {α : Type} (name : String) (value : α) : List (String × α) → List (String × α)
  | [] => [(name, value)]
  | entry :: rest =>
    if entry.1 = name then (name, value) :: rest else entry :: putNamed name value rest

theorem mem_names_putNamed {α : Type} (name : String) (value : α) (x : String)
    (entries : List (String × α)) :
    x ∈ (putNamed name value entries).map Prod.fst ↔ x = name ∨ x ∈ entries.map Prod.fst := by
  induction entries with
  | nil => simp [putNamed]
  | cons entry rest ih =>
    unfold putNamed
    split
    · next h => simp [h]
    · simp only [List.map_cons, List.mem_cons, ih]
      constructor
      · rintro (h | h | h) <;> simp [h]
      · rintro (h | h | h) <;> simp [h]

theorem nodup_names_putNamed {α : Type} (name : String) (value : α) (entries : List (String × α))
    (nodup : (entries.map Prod.fst).Nodup) :
    ((putNamed name value entries).map Prod.fst).Nodup := by
  induction entries with
  | nil => simp [putNamed]
  | cons entry rest ih =>
    simp only [List.map_cons, List.nodup_cons] at nodup
    unfold putNamed
    split
    · next h => simpa [h] using nodup
    · next h =>
      simp only [List.map_cons, List.nodup_cons, mem_names_putNamed, not_or]
      exact ⟨⟨h, nodup.1⟩, ih nodup.2⟩

structure ResourceTable where
  entries : List (String × Resource)
  names_nodup : (entries.map Prod.fst).Nodup
deriving DecidableEq, Repr

namespace ResourceTable

def empty : ResourceTable where
  entries := []
  names_nodup := List.Pairwise.nil

instance : Inhabited ResourceTable := ⟨empty⟩

def insert (table : ResourceTable) (name : String) (resource : Resource) : ResourceTable where
  entries := putNamed name resource table.entries
  names_nodup := nodup_names_putNamed name resource table.entries table.names_nodup

def names (table : ResourceTable) : List String :=
  table.entries.map Prod.fst

def size (table : ResourceTable) : Nat :=
  table.entries.length

end ResourceTable

end ClientGem.Api
