import ClientGem.Number.Binary64

/-!
The values a structured document can hold. Mappings keep the order in which they were written;
a tag is a name put in front of a value.
-/

namespace ClientGem.Document

open Number

inductive Value where
  | null
  | bool (value : Bool)
  | int (value : Int)
  | float (value : Binary64)
  | text (value : String)
  | seq (items : List Value)
  | map (entries : List (Value × Value))
  | tagged (tag : String) (value : Value)
deriving Repr, Inhabited

namespace Value

def untagged : Value → Value
  | tagged _ value => value.untagged
  | value => value

def isNull : Value → Bool
  | null => true
  | _ => false

/-- What tells a tag from others: an exclamation mark before the name counts for nothing. -/
def tagName (tag : String) : List Char :=
  match tag.toList with
  | '!' :: c :: rest => c :: rest
  | name => name

mutual

/-- Equality of values as keys: the order of a mapping does not count. -/
def same : Value → Value → Bool
  | null, null => true
  | bool a, bool b => a == b
  | int a, int b => a == b
  | float a, float b => a.same b
  | text a, text b => a == b
  | seq as, seq bs => sameItems as bs
  | map as, map bs => as.length == bs.length && entriesWithin as bs
  | tagged s a, tagged t b => tagName s == tagName t && same a b
  | _, _ => false

def sameItems : List Value → List Value → Bool
  | [], [] => true
  | a :: as, b :: bs => same a b && sameItems as bs
  | _, _ => false

def entriesWithin : List (Value × Value) → List (Value × Value) → Bool
  | [], _ => true
  | (key, value) :: rest, others =>
    others.any (fun other => same key other.1 && same value other.2) && entriesWithin rest others

end

def putEntry (key value : Value) : List (Value × Value) → List (Value × Value)
  | [] => [(key, value)]
  | entry :: rest =>
    if same key entry.1 then (key, value) :: rest else entry :: putEntry key value rest

def mapOf (entries : List (Value × Value)) : Value :=
  .map (entries.foldl (fun held (key, value) => putEntry key value held) [])

end Value

end ClientGem.Document
