import ClientGem.Proofs.Gem.Confinement
import ClientGem.Proofs.Output.Apart
import Mathlib.Data.List.Nodup

/-!
The places of the files of a gem whose names are single components. They are all different, and none
has to do with how another file is written.
-/

namespace ClientGem.Gem

open FilePath Output

/-- The name of the API is a component of its own, and no name of a resource leads elsewhere. -/
def NamesOrdinary (gem : Gem) : Prop :=
  IsOrdinary gem.apiName.toList ∧ ∀ name ∈ gem.resourceNames, '/' ∉ name.toList

instance (gem : Gem) : Decidable gem.NamesOrdinary :=
  inferInstanceAs (Decidable (_ ∧ _))

variable (gem : Gem)

def basePlace (name : String) : Place where
  above := ["lib", gem.fileStem]
  name := name ++ ".rb"

def resourcePlace (name : String) : Place where
  above := ["lib", gem.fileStem, "resources"]
  name := name ++ ".rb"

def fixedPlaces : List Place :=
  [ ⟨["lib"], gem.fileStem ++ ".rb"⟩, ⟨["docs"], "api.md"⟩, ⟨[], "README.md"⟩,
    ⟨["test"], "test_helper.rb"⟩, ⟨["test"], gem.fileStem ++ "_test.rb"⟩ ]

def places : List Place :=
  (gem.baseSources.map Prod.fst).map gem.basePlace ++ gem.resourceNames.map gem.resourcePlace ++
    gem.fixedPlaces

variable {gem}

theorem fileStem_ordinary (ordinary : IsOrdinary gem.apiName.toList) :
    IsOrdinary gem.fileStem.toList := by
  have chars := Ruby.toList_fileStem gem.apiName
  have ofDot (c : Char) : Ruby.underscored c = '.' ↔ c = '.' :=
    Ruby.underscored_eq_iff (by decide) (by decide)
  obtain ⟨flat, ne_nil, ne_here, ne_up⟩ := ordinary
  refine ⟨fileStem_flat flat, gem.fileStem_nonempty, ?_, ?_⟩
  · rw [fileStem, chars]
    intro same
    apply ne_here
    simpa [here, List.map_eq_cons_iff, ofDot] using same
  · rw [fileStem, chars]
    intro same
    apply ne_up
    simpa [up, List.map_eq_cons_iff, ofDot] using same

theorem isOrdinary_ending {name ending : String} (flat : '/' ∉ name.toList)
    (flat_ending : '/' ∉ ending.toList) (long : 2 < ending.toList.length) :
    IsOrdinary (name ++ ending).toList := by
  rw [String.toList_append]
  apply isOrdinary_of_long
  · simp [flat, flat_ending]
  · rw [List.length_append]
    omega

theorem forall_mem_places {p : Place → Prop}
    (base : ∀ name ∈ gem.baseSources.map Prod.fst, p (gem.basePlace name))
    (resource : ∀ name ∈ gem.resourceNames, p (gem.resourcePlace name))
    (fixed : ∀ place ∈ gem.fixedPlaces, p place) : ∀ place ∈ gem.places, p place := by
  intro place member
  rcases List.mem_append.mp member with library | isFixed
  · rcases List.mem_append.mp library with isBase | ofResource
    · obtain ⟨name, inNames, rfl⟩ := List.mem_map.mp isBase
      exact base name inNames
    · obtain ⟨name, inNames, rfl⟩ := List.mem_map.mp ofResource
      exact resource name inNames
  · exact fixed place isFixed

theorem flat_of_mem_baseSources {name : String} (member : name ∈ gem.baseSources.map Prod.fst) :
    '/' ∉ name.toList := by
  have all : ∀ file ∈ baseFiles, '/' ∉ file.toList := by decide
  exact all name (gem.baseFiles_perm.mem_iff.mpr member)

theorem eq_path_of_text {path : FilePath} {place : Place}
    (text : path.text = "/".intercalate place.names) : path = place.path :=
  congrArg FilePath.mk text

section Ordinary

variable (ordinary : gem.NamesOrdinary)
include ordinary

theorem isOrdinary_of_mem_places : ∀ place ∈ gem.places, place.IsOrdinary := by
  obtain ⟨ofApi, ofResources⟩ := ordinary
  have stem := fileStem_ordinary ofApi
  have lib : FilePath.IsOrdinary "lib".toList := by decide
  have resources : FilePath.IsOrdinary "resources".toList := by decide
  have withEnding {name : String} (flat : '/' ∉ name.toList) :
      FilePath.IsOrdinary (name ++ ".rb").toList :=
    isOrdinary_ending flat (by decide) (by decide)
  apply forall_mem_places
  · intro name member
    simp only [Place.IsOrdinary, Place.names, basePlace, List.cons_append, List.nil_append,
      List.forall_mem_cons]
    exact ⟨lib, stem, withEnding (flat_of_mem_baseSources member), by simp⟩
  · intro name member
    simp only [Place.IsOrdinary, Place.names, resourcePlace, List.cons_append, List.nil_append,
      List.forall_mem_cons]
    exact ⟨lib, stem, resources, withEnding (ofResources name member), by simp⟩
  · have test : FilePath.IsOrdinary (gem.fileStem ++ "_test.rb").toList :=
      isOrdinary_ending stem.1 (by decide) (by decide)
    have others : ∀ name ∈ ["docs", "api.md", "README.md", "test", "test_helper.rb"],
        FilePath.IsOrdinary name.toList := by decide
    simp only [List.forall_mem_cons] at others
    obtain ⟨docs, api, introduction, tests, helper, -⟩ := others
    simp only [fixedPlaces, Place.IsOrdinary, Place.names, List.cons_append, List.nil_append,
      List.forall_mem_cons]
    exact ⟨⟨lib, withEnding stem.1, by simp⟩, ⟨docs, api, by simp⟩, ⟨introduction, by simp⟩,
      ⟨tests, helper, by simp⟩, ⟨tests, test, by simp⟩, by simp⟩

theorem libraryPath_base {name : String} (member : name ∈ gem.baseSources.map Prod.fst) :
    gem.libraryPath name = (gem.basePlace name).path := by
  have inside := isInside_baseFile (gem.baseFiles_perm.mem_iff.mpr member)
  apply eq_path_of_text
  rw [libraryPath_text ordinary.1.1 name inside.1]
  apply String.toList_inj.mp
  simp [Place.names, basePlace]

theorem libraryPath_resource (name : String) :
    gem.libraryPath ("resources/" ++ name) = (gem.resourcePlace name).path := by
  apply eq_path_of_text
  rw [libraryPath_text ordinary.1.1 _ (isInside_resource name).1]
  apply String.toList_inj.mp
  simp [Place.names, resourcePlace]

theorem fixedPaths_eq : gem.fixedPaths = gem.fixedPlaces.map Place.path := by
  have entry : gem.entryPath = Place.path ⟨["lib"], gem.fileStem ++ ".rb"⟩ := by
    apply eq_path_of_text
    rw [entryPath_text ordinary.1.1]
    apply String.toList_inj.mp
    simp [Place.names]
  have test : gem.testPath = Place.path ⟨["test"], gem.fileStem ++ "_test.rb"⟩ := by
    apply eq_path_of_text
    rw [testPath_text ordinary.1.1]
    apply String.toList_inj.mp
    simp [Place.names]
  rw [fixedPaths, fixedPlaces, entry, test]
  rfl

theorem paths_perm_places : (gem.files.map File.path).Perm (gem.places.map Place.path) := by
  have base : (gem.baseSources.map Prod.fst).map gem.libraryPath =
      ((gem.baseSources.map Prod.fst).map gem.basePlace).map Place.path :=
    (List.map_congr_left fun _ => libraryPath_base ordinary).trans List.map_map.symm
  have resources : (gem.resourceNames.map ("resources/" ++ ·)).map gem.libraryPath =
      (gem.resourceNames.map gem.resourcePlace).map Place.path := by
    rw [List.map_map, List.map_map]
    exact List.map_congr_left fun name _ => libraryPath_resource ordinary name
  have library : gem.libraryNames.map gem.libraryPath =
      ((gem.baseSources.map Prod.fst).map gem.basePlace ++
        gem.resourceNames.map gem.resourcePlace).map Place.path := by
    rw [libraryNames, List.map_append, base, resources, List.map_append]
  rw [places, List.map_append, ← library, ← fixedPaths_eq ordinary]
  exact gem.paths_perm

end Ordinary

theorem testHelper_ne_test : "test_helper.rb" ≠ gem.fileStem ++ "_test.rb" := by
  intro same
  have ends := congrArg (fun name => name.toList.reverse.take 4) same
  rw [String.toList_append, List.reverse_append] at ends
  simp at ends

theorem nodup_fixedPlaces : (gem.fixedPlaces.map Place.names).Nodup := by
  simp [fixedPlaces, Place.names, testHelper_ne_test]

theorem nodup_places : (gem.places.map Place.names).Nodup := by
  have injective (above : List String) (ending : String) :
      Function.Injective fun name => above ++ [name ++ ending] := by
    intro first second same
    have chars := congrArg String.toList (List.head_eq_of_cons_eq (List.append_cancel_left same))
    rw [String.toList_append, String.toList_append] at chars
    exact String.toList_inj.mp (List.append_cancel_right chars)
  have base : (((gem.baseSources.map Prod.fst).map gem.basePlace).map Place.names).Nodup := by
    have names : (gem.baseSources.map Prod.fst).Nodup :=
      gem.baseFiles_perm.nodup_iff.mp (by decide)
    rw [List.map_map]
    exact List.Nodup.map (injective ["lib", gem.fileStem] ".rb") names
  have resources : ((gem.resourceNames.map gem.resourcePlace).map Place.names).Nodup := by
    rw [List.map_map]
    exact List.Nodup.map (injective ["lib", gem.fileStem, "resources"] ".rb")
      gem.api.resources.names_nodup
  -- The three groups lie at different depths.
  have baseDepth : ∀ names ∈ ((gem.baseSources.map Prod.fst).map gem.basePlace).map Place.names,
      names.length = 3 := by
    intro names member
    obtain ⟨place, inPlaces, rfl⟩ := List.mem_map.mp member
    obtain ⟨name, -, rfl⟩ := List.mem_map.mp inPlaces
    rfl
  have resourceDepth : ∀ names ∈ (gem.resourceNames.map gem.resourcePlace).map Place.names,
      names.length = 4 := by
    simp [Place.names, resourcePlace]
  have fixedDepth : ∀ names ∈ gem.fixedPlaces.map Place.names, names.length ≤ 2 := by
    simp [Place.names, fixedPlaces]
  rw [places, List.map_append, List.map_append, List.nodup_append, List.nodup_append]
  refine ⟨⟨base, resources, ?_⟩, nodup_fixedPlaces, ?_⟩
  · rintro first inBase second inResources rfl
    have depth := baseDepth first inBase
    rw [resourceDepth first inResources] at depth
    cases depth
  · rintro first inLibrary second inFixed rfl
    have shallow := fixedDepth first inFixed
    rcases List.mem_append.mp inLibrary with inBase | inResources
    · rw [baseDepth first inBase] at shallow
      omega
    · rw [resourceDepth first inResources] at shallow
      omega

def IsLasting (name : String) : Prop :=
  name.toList.getLast? ≠ some 'p'

instance (name : String) : Decidable (IsLasting name) :=
  inferInstanceAs (Decidable (_ ≠ _))

theorem ne_beside_of_isLasting {name : String} (lasting : IsLasting name) (place : Place) :
    name ≠ place.beside.name := by
  rintro rfl
  exact lasting (by simp [Place.beside])

theorem isLasting_of_mem_places : ∀ place ∈ gem.places, IsLasting place.name := by
  apply forall_mem_places
  · intro name _
    simp [IsLasting, basePlace]
  · intro name _
    simp [IsLasting, resourcePlace]
  · simp [IsLasting, fixedPlaces]

/-- Only the entry file lies beside the directory of the library. -/
theorem name_of_above : ∀ place ∈ gem.places, place.above = ["lib"] →
    place.name = gem.fileStem ++ ".rb" := by
  apply forall_mem_places
  · intro name _ above
    simp [basePlace] at above
  · intro name _ above
    simp [resourcePlace] at above
  · simp [fixedPlaces]

theorem above_isPrefix : ∀ place ∈ gem.places, place.above <+: ["lib", gem.fileStem, "resources"] ∨
    place.above <+: ["docs"] ∨ place.above <+: ["test"] := by
  apply forall_mem_places
  · intro name _
    exact .inl ⟨["resources"], rfl⟩
  · intro name _
    exact .inl List.prefix_rfl
  · simp [fixedPlaces]

/-- No file is kept, before it is at its place, on the way to another. -/
theorem not_isPrefix_above {earlier later : Place} (member : earlier ∈ gem.places)
    (member' : later ∈ gem.places) : ¬earlier.beside.names <+: later.above := by
  intro onWay
  have apart {name : String} (lasting : IsLasting name) : earlier.beside.name ≠ name :=
    (ne_beside_of_isLasting lasting earlier).symm
  have single {name : String} (lasting : IsLasting name) (within : later.above <+: [name]) :
      False := by
    have last : earlier.beside.name ∈ earlier.beside.names := by simp [Place.names]
    exact apart lasting (List.mem_singleton.mp ((onWay.trans within).subset last))
  rcases above_isPrefix later member' with within | within | within
  · obtain ⟨rest, whole⟩ := onWay.trans within
    change earlier.above ++ [earlier.beside.name] ++ rest = _ at whole
    rcases above : earlier.above with _ | ⟨first, _ | ⟨second, others⟩⟩
    · rw [above] at whole
      exact apart (by decide) (List.head_eq_of_cons_eq whole)
    · rw [above] at whole
      simp only [List.cons_append, List.nil_append, List.cons.injEq] at whole
      obtain ⟨rfl, stem, -⟩ := whole
      have longer := congrArg String.length stem
      rw [Place.beside, name_of_above earlier member above, String.length_append,
        String.length_append] at longer
      have ending : ".tmp".length = 4 := rfl
      omega
    · rw [above] at whole
      simp only [List.cons_append, List.cons.injEq] at whole
      have last : earlier.beside.name ∈ others ++ [earlier.beside.name] ++ rest := by simp
      rw [whole.2.2, List.mem_singleton] at last
      exact apart (by decide) last
  · exact single (by decide) within
  · exact single (by decide) within

theorem placesApart {earlier later : Place} (member : earlier ∈ gem.places)
    (member' : later ∈ gem.places) (apart : earlier.names ≠ later.names) :
    PlacesApart earlier later where
  target := apart
  target_beside same :=
    ne_beside_of_isLasting (isLasting_of_mem_places earlier member) later
      (List.head_eq_of_cons_eq (List.append_inj' same rfl).2)
  beside_target same :=
    ne_beside_of_isLasting (isLasting_of_mem_places later member') earlier
      (List.head_eq_of_cons_eq (List.append_inj' same rfl).2).symm
  onWay := not_isPrefix_above member member'

end ClientGem.Gem
