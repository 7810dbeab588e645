import ClientGem.Yaml.Node

/-!
Nodes whose aliases have been traced to anchors. An anchor may be given again, and then later
aliases mean the later node.
-/

namespace ClientGem.Yaml

/-- Anchors are numbered by how many different names came before. An anchor given again takes a
new number, which the next new name then shares. -/
abbrev Numbers := List (String × Nat)

def Numbers.add (name : String) (numbers : Numbers) : Numbers × Nat :=
  let number := numbers.length
  if (numbers.lookup name).isSome then
    (numbers.map fun entry => if entry.1 == name then (name, number) else entry, number)
  else (numbers ++ [(name, number)], number)

def Numbers.note (anchor : Option String) (numbers : Numbers) : Numbers :=
  match anchor with
  | some name => (numbers.add name).1
  | none => numbers

def Numbers.next (anchor : Option String) (numbers : Numbers) : Option Nat :=
  anchor.map fun name => (numbers.add name).2

/-- A node whose aliases are numbers; `number` is that of its own anchor. -/
inductive Linked where
  | reference (place : Place) (number : Nat)
  | scalar (place : Place) (number : Option Nat) (tag : Option Octets) (text : String)
      (plain : Bool)
  | seq (place : Place) (number : Option Nat) (tag : Option Octets) (items : List Linked)
  | map (place : Place) (number : Option Nat) (tag : Option Octets)
      (entries : List (Linked × Linked))
  | refused (fault : Fault)

namespace Linked

mutual

/-- The node and the anchors after it, or none if nothing after it can be reached. An alias
without an anchor cuts the tree short. -/
def ofNode (numbers : Numbers) : Node → Linked × Option Numbers
  | .reference place name =>
    match numbers.lookup name with
    | some number => (reference place number, some numbers)
    | none => (refused (.unknownAnchor place), none)
  | .scalar place properties text plain =>
    (scalar place (numbers.next properties.anchor) properties.tag text plain,
      some (numbers.note properties.anchor))
  | .seq place properties items =>
    let (items, after) := ofItems (numbers.note properties.anchor) items
    (seq place (numbers.next properties.anchor) properties.tag items, after)
  | .map place properties entries =>
    let (entries, after) := ofEntries (numbers.note properties.anchor) entries
    (map place (numbers.next properties.anchor) properties.tag entries, after)
  | .refused fault => (refused fault, none)

def ofItems (numbers : Numbers) : List Node → List Linked × Option Numbers
  | [] => ([], some numbers)
  | item :: rest =>
    match ofNode numbers item with
    | (item, none) => ([item], none)
    | (item, some numbers) =>
      let (items, after) := ofItems numbers rest
      (item :: items, after)

def ofEntries (numbers : Numbers) :
    List (Node × Node) → List (Linked × Linked) × Option Numbers
  | [] => ([], some numbers)
  | (key, value) :: rest =>
    match ofNode numbers key with
    -- the value of a key that is cut short is never asked for
    | (key, none) => ([(key, key)], none)
    | (key, some numbers) =>
      match ofNode numbers value with
      | (value, none) => ([(key, value)], none)
      | (value, some numbers) =>
        let (entries, after) := ofEntries numbers rest
        ((key, value) :: entries, after)

end

mutual

def targets : Linked → List (Nat × Linked)
  | reference .. | refused _ => []
  | scalar place number tag text plain =>
    (number.map fun n => (n, scalar place number tag text plain)).toList
  | seq place number tag items =>
    (number.map fun n => (n, seq place number tag items)).toList ++ targetsOfItems items
  | map place number tag entries =>
    (number.map fun n => (n, map place number tag entries)).toList ++ targetsOfEntries entries

def targetsOfItems : List Linked → List (Nat × Linked)
  | [] => []
  | item :: rest => item.targets ++ targetsOfItems rest

def targetsOfEntries : List (Linked × Linked) → List (Nat × Linked)
  | [] => []
  | (key, value) :: rest => key.targets ++ value.targets ++ targetsOfEntries rest

end

def countEnds (inside : Nat × Bool) : Nat × Bool :=
  (if inside.2 then inside.1 + 2 else inside.1 + 1, inside.2)

/-- One count after another, unless the first is of a node that is cut short. -/
def countOn (first second : Nat × Bool) : Nat × Bool :=
  if first.2 then (first.1 + second.1, second.2) else first

mutual

/-- How many events announce the node, and whether it is whole. A scalar or an alias is one event;
the ends of a collection are two. -/
def events : Linked → Nat × Bool
  | refused _ => (0, false)
  | reference .. | scalar .. => (1, true)
  | seq _ _ _ items => countEnds (eventsOfItems items)
  | map _ _ _ entries => countEnds (eventsOfEntries entries)

def eventsOfItems : List Linked → Nat × Bool
  | [] => (0, true)
  | item :: rest => countOn item.events (eventsOfItems rest)

def eventsOfEntries : List (Linked × Linked) → Nat × Bool
  | [] => (0, true)
  | (key, value) :: rest =>
    countOn key.events (countOn value.events (eventsOfEntries rest))

end

end Linked

end ClientGem.Yaml
