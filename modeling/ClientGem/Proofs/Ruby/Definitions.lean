import ClientGem.Proofs.Ruby.Call
import ClientGem.Ruby.Source
import Mathlib.Data.List.TakeWhile

/-!
Source read for what it defines: the classes in its modules, and the methods and attributes of a
class. A later definition of the same name reopens a class, or takes the place of a method.
-/

namespace ClientGem.Ruby

def endsName (c : Char) : Bool :=
  c == ' ' || c == '('

def leadingChars (cs : List Char) : List Char :=
  (cs.dropWhile (· == ' ')).takeWhile (!endsName ·)

def leadingName (text : String) : String :=
  String.ofList (leadingChars text.toList)

def nameAfter? (keyword text : String) : Option String :=
  if keyword.toList.isPrefixOf text.toList then
    some (String.ofList (leadingChars (text.toList.drop keyword.toList.length)))
  else none

/-- A class, by the names of the modules and classes that lead to it, with what stands in it. -/
structure ClassBody where
  path : List String
  items : List Item

mutual

/-- The classes in an item, which itself stands in the given modules. -/
def Item.classes (outer : List String) : Item → List ClassBody
  | .block header body =>
    match nameAfter? "module " header, nameAfter? "class " header with
    | some name, _ => Source.classes (outer ++ [name]) body
    | none, some name => ⟨outer ++ [name], body⟩ :: Source.classes (outer ++ [name]) body
    | none, none => []
  | _ => []

def Source.classes (outer : List String) : List Item → List ClassBody
  | [] => []
  | item :: rest => item.classes outer ++ Source.classes outer rest

end

def readerNames (text : String) : List String :=
  let keyword := "attr_reader ".toList
  if keyword.isPrefixOf text.toList then
    (Call.argumentChars (text.toList.drop keyword.length)).map fun symbol =>
      String.ofList (symbol.drop 1)
  else []

def Item.methodNames : Item → List String
  | .line text => readerNames text
  | .block header _ => (nameAfter? "def " header).toList
  | _ => []

def methodNames (items : List Item) : List String :=
  items.flatMap Item.methodNames

theorem nameAfter?_append (keyword rest : String) :
    nameAfter? keyword (keyword ++ rest) = some (leadingName rest) := by
  have starts : keyword.toList.isPrefixOf (keyword ++ rest).toList = true := by
    rw [String.toList_append]
    exact List.isPrefixOf_iff_prefix.mpr (List.prefix_append _ _)
  unfold nameAfter? leadingName
  rw [if_pos starts, String.toList_append, List.drop_left]

theorem nameAfter?_eq_none (keyword other rest : String) {c d : Char}
    (first : keyword.toList.head? = some c) (second : other.toList.head? = some d) (apart : c ≠ d) :
    nameAfter? keyword (other ++ rest) = none := by
  obtain ⟨cs, keywordChars⟩ := List.head?_eq_some_iff.mp first
  obtain ⟨ds, otherChars⟩ := List.head?_eq_some_iff.mp second
  apply if_neg
  intro isPrefix
  rw [String.toList_append, keywordChars, otherChars] at isPrefix
  obtain ⟨behind, text⟩ := List.isPrefixOf_iff_prefix.mp isPrefix
  exact apart (List.head_eq_of_cons_eq text)

theorem leadingChars_append_paren (cs rest : List Char) :
    leadingChars (cs ++ '(' :: rest) = leadingChars cs := by
  have behind (ds : List Char) :
      (ds ++ '(' :: rest).takeWhile (!endsName ·) = ds.takeWhile (!endsName ·) := by
    induction ds with
    | nil => rfl
    | cons d ds ih =>
      rw [List.cons_append, List.takeWhile_cons, List.takeWhile_cons, ih]
  unfold leadingChars
  rw [List.dropWhile_append]
  split
  · next blank =>
    rw [List.isEmpty_iff.mp blank]
    rfl
  · exact behind _

theorem leadingName_applied (name : String) (args : List String) :
    leadingName (applied name args) = leadingName name := by
  unfold applied
  split
  · rfl
  · have text : (name ++ "(" ++ ", ".intercalate args ++ ")").toList =
        name.toList ++ '(' :: (", ".intercalate args ++ ")").toList := by
      simp
    rw [leadingName, text, leadingChars_append_paren, leadingName]

theorem leadingName_of_forall {name : String} (whole : ∀ c ∈ name.toList, endsName c = false) :
    leadingName name = name := by
  have noBlank : name.toList.dropWhile (· == ' ') = name.toList := by
    rw [List.dropWhile_eq_self_iff]
    intro nonempty blank
    have ends := whole _ (List.getElem_mem nonempty)
    rw [beq_iff_eq.mp blank] at ends
    cases ends
  have all : name.toList.takeWhile (!endsName ·) = name.toList := by
    rw [List.takeWhile_eq_self_iff]
    intro c member
    rw [whole c member]
    rfl
  rw [leadingName, leadingChars, noBlank, all, String.ofList_toList]

section Classes

variable (outer : List String)

theorem classes_module (name : String) (body : List Item) :
    (Item.block ("module " ++ name) body).classes outer =
      Source.classes (outer ++ [leadingName name]) body := by
  rw [Item.classes, nameAfter?_append]

theorem classes_class (name : String) (body : List Item) :
    (Item.block ("class " ++ name) body).classes outer =
      ⟨outer ++ [leadingName name], body⟩ :: Source.classes (outer ++ [leadingName name]) body := by
  have noModule : nameAfter? "module " ("class " ++ name) = none :=
    nameAfter?_eq_none _ _ _ rfl rfl (by decide)
  rw [Item.classes, nameAfter?_append, noModule]

theorem classes_singleton (item : Item) : Source.classes outer [item] = item.classes outer := by
  rw [Source.classes, Source.classes, List.append_nil]

theorem classes_append (first second : Source) :
    Source.classes outer (first ++ second) =
      Source.classes outer first ++ Source.classes outer second := by
  induction first with
  | nil => rfl
  | cons item first ih =>
    rw [List.cons_append, Source.classes, Source.classes, ih, List.append_assoc]

theorem classes_eq_nil {items : List Item} (none : ∀ item ∈ items, item.classes outer = []) :
    Source.classes outer items = [] := by
  induction items with
  | nil => rfl
  | cons item items ih =>
    rw [Source.classes, none item List.mem_cons_self, List.nil_append]
    exact ih fun other member => none other (List.mem_cons_of_mem _ member)

theorem classes_eachAfterBlank (items : List Item) :
    Source.classes outer (eachAfterBlank items) = Source.classes outer items := by
  induction items with
  | nil => rfl
  | cons item items ih =>
    rw [eachAfterBlank_cons, Source.classes, Source.classes, Source.classes, ih]
    rfl

theorem classes_preamble (source : Source) :
    Source.classes outer (Source.preamble ++ source) = Source.classes outer source := by
  rw [classes_append]
  rfl

end Classes

theorem methodNames_append (first second : List Item) :
    methodNames (first ++ second) = methodNames first ++ methodNames second :=
  List.flatMap_append

theorem methodNames_eachAfterBlank (items : List Item) :
    methodNames (eachAfterBlank items) = methodNames items := by
  induction items with
  | nil => rfl
  | cons item items ih =>
    unfold methodNames at ih ⊢
    rw [eachAfterBlank_cons, List.flatMap_cons, List.flatMap_cons, List.flatMap_cons, ih]
    rfl

structure Item.Defines (item : Item) (name : String) : Prop where
  methodNames_eq : item.methodNames = [name]
  classes_eq : ∀ outer, item.classes outer = []

theorem defines_block (signature : String) (body : List Item) :
    (Item.block ("def " ++ signature) body).Defines (leadingName signature) where
  methodNames_eq := by
    rw [Item.methodNames, nameAfter?_append]
    rfl
  classes_eq outer := by
    have noModule : nameAfter? "module " ("def " ++ signature) = none :=
      nameAfter?_eq_none _ _ _ rfl rfl (by decide)
    have noClass : nameAfter? "class " ("def " ++ signature) = none :=
      nameAfter?_eq_none _ _ _ rfl rfl (by decide)
    rw [Item.classes, noModule, noClass]

section Methods

variable {α : Type} {define : α → Item} {name : α → String}
  (each : ∀ thing, (define thing).Defines (name thing))
include each

theorem methodNames_map (things : List α) :
    methodNames (things.map define) = things.map name := by
  rw [methodNames, List.flatMap_map, List.map_eq_flatMap]
  simp only [(each _).methodNames_eq]

theorem classes_map (outer : List String) (things : List α) :
    Source.classes outer (things.map define) = [] := by
  apply classes_eq_nil
  intro item member
  obtain ⟨thing, -, rfl⟩ := List.mem_map.mp member
  exact (each thing).classes_eq outer

end Methods

def members (reader first : String) (lines : List String) (others : List Item) : List Item :=
  [.line reader, .blank, method first lines] ++ eachAfterBlank others

theorem methodNames_members (reader first : String) (lines : List String) (others : List Item) :
    methodNames (members reader first lines others) =
      readerNames reader ++ leadingName first :: methodNames others := by
  have initial : methodNames [.line reader, .blank, method first lines] =
      readerNames reader ++ [leadingName first] := by
    unfold methodNames
    rw [List.flatMap_cons, List.flatMap_cons, List.flatMap_cons, method,
      (defines_block _ _).methodNames_eq]
    rfl
  rw [members, methodNames_append, initial, methodNames_eachAfterBlank, List.append_assoc]
  rfl

theorem classes_members (outer : List String) (reader first : String) (lines : List String)
    {others : List Item} (none : Source.classes outer others = []) :
    Source.classes outer (members reader first lines others) = [] := by
  have initial : Source.classes outer [.line reader, .blank, method first lines] = [] := by
    rw [Source.classes, Source.classes, Source.classes, method, (defines_block _ _).classes_eq]
    rfl
  rw [members, classes_append, initial, classes_eachAfterBlank, none]
  rfl

end ClientGem.Ruby
