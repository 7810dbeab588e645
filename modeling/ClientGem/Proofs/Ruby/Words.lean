import ClientGem.Proofs.Ruby.Name
import Mathlib.Logic.Relation

/-!
The words of a name. A module is named word by word, so that it does not matter with which
separators the words are held apart, how many there are, or whether some stand at an end.
-/

namespace ClientGem.Ruby

def words (cs : List Char) : List (List Char) :=
  (Text.splitChars isSeparator cs).filter (!·.isEmpty)

theorem toList_moduleName (apiName : String) :
    (moduleName apiName).toList = (words apiName.toList).flatMap capitalizeChars :=
  String.toList_ofList

theorem words_append_cut {c : Char} (cut : isSeparator c = true) (before behind : List Char) :
    words (before ++ c :: behind) = words before ++ words behind := by
  unfold words
  rw [Text.splitChars_append_cut cut, List.filter_append]

theorem words_singleton {word : List Char} (ne_nil : word ≠ [])
    (whole : ∀ c ∈ word, isSeparator c = false) : words word = [word] := by
  rw [words, Text.splitChars_of_forall whole]
  exact List.filter_cons_of_pos (by simpa using ne_nil)

/-- One separator is dropped at the front, at the end or behind another one, or is replaced. -/
inductive Reseparated : List Char → List Char → Prop
  | leading {c : Char} (cut : isSeparator c = true) (name : List Char) :
      Reseparated (c :: name) name
  | trailing {c : Char} (cut : isSeparator c = true) (name : List Char) :
      Reseparated (name ++ [c]) name
  | repeated {c d : Char} (cut : isSeparator c = true) (again : isSeparator d = true)
      (before behind : List Char) :
      Reseparated (before ++ c :: d :: behind) (before ++ c :: behind)
  | exchanged {c d : Char} (cut : isSeparator c = true) (other : isSeparator d = true)
      (before behind : List Char) :
      Reseparated (before ++ c :: behind) (before ++ d :: behind)

theorem Reseparated.words_eq {name other : List Char} (step : Reseparated name other) :
    words name = words other := by
  have none : words [] = [] := rfl
  cases step with
  | leading cut =>
    have behind := words_append_cut cut [] other
    rwa [none] at behind
  | trailing cut =>
    rw [words_append_cut cut other [], none, List.append_nil]
  | repeated cut again before behind =>
    have between := words_append_cut again [] behind
    rw [none, List.nil_append, List.nil_append] at between
    rw [words_append_cut cut, words_append_cut cut, between]
  | exchanged cut other before behind =>
    rw [words_append_cut cut, words_append_cut other]

theorem words_eq_of_eqvGen {name other : List Char}
    (alike : Relation.EqvGen Reseparated name other) : words name = words other := by
  induction alike with
  | rel name other step => exact step.words_eq
  | refl name => rfl
  | symm name other _ same => exact same.symm
  | trans name other third _ _ first second => exact first.trans second

/-- The stem of a name has other separators in the places of its separators. -/
theorem eqvGen_map_underscored (before name : List Char) :
    Relation.EqvGen Reseparated (before ++ name.map underscored) (before ++ name) := by
  induction name generalizing before with
  | nil => exact .refl _
  | cons c name ih =>
    have behind := ih (before ++ [underscored c])
    rw [List.append_assoc, List.append_assoc, List.singleton_append, List.singleton_append]
      at behind
    refine .trans _ _ _ behind ?_
    unfold underscored
    split
    · next dash =>
      rw [dash]
      exact .rel _ _ (.exchanged rfl rfl before name)
    · exact .refl _

structure NamesByWord (naming : String → String) : Prop where
  /-- A single word gives the name of a class. -/
  word : ∀ name : String, (∀ c ∈ name.toList, isSeparator c = false) →
    naming name = className name
  joined : ∀ (before behind : String) (c : Char), isSeparator c = true →
    naming (before ++ String.singleton c ++ behind) = naming before ++ naming behind
  reseparated : ∀ name other : String,
    Relation.EqvGen Reseparated name.toList other.toList → naming name = naming other
  stem : ∀ name : String, naming (fileStem name) = naming name
  empty_iff : ∀ name : String, naming name = "" ↔ ∀ c ∈ name.toList, isSeparator c = true

theorem moduleName_eq_of_words_eq {name other : String}
    (same : words name.toList = words other.toList) : moduleName name = moduleName other := by
  rw [← String.toList_inj, toList_moduleName, toList_moduleName, same]

theorem moduleName_of_word {name : String} (whole : ∀ c ∈ name.toList, isSeparator c = false) :
    moduleName name = className name := by
  rw [← String.toList_inj, toList_moduleName, className, String.toList_ofList]
  by_cases empty : name.toList = []
  · rw [empty]
    rfl
  · rw [words_singleton empty whole, List.flatMap_singleton]

theorem moduleName_joined (before behind : String) {c : Char} (cut : isSeparator c = true) :
    moduleName (before ++ String.singleton c ++ behind) =
      moduleName before ++ moduleName behind := by
  have spelled : (before ++ String.singleton c ++ behind).toList =
      before.toList ++ c :: behind.toList := by simp
  rw [← String.toList_inj, String.toList_append, toList_moduleName, toList_moduleName,
    toList_moduleName, spelled, words_append_cut cut, List.flatMap_append]

/-- A module is named by the words of the API name alone: a separator joins the names of what stands
on its two sides, and nothing else of it is left. -/
theorem moduleName_namesByWord : NamesByWord moduleName where
  word _ whole := moduleName_of_word whole
  joined before behind _ cut := moduleName_joined before behind cut
  reseparated _ _ alike := moduleName_eq_of_words_eq (words_eq_of_eqvGen alike)
  stem name := by
    apply moduleName_eq_of_words_eq
    rw [toList_fileStem]
    exact words_eq_of_eqvGen (eqvGen_map_underscored [] name.toList)
  empty_iff := moduleName_eq_empty_iff

example : moduleName "--api__v2-" = moduleName "api" ++ moduleName "v2" := by decide

end ClientGem.Ruby
