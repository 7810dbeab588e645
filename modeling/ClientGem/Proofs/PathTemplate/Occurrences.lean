import ClientGem.Proofs.PathTemplate.Names
import Mathlib.Order.Bounds.Basic

/-!
Where placeholders stand in a path. Whatever braces surround it, the text of a placeholder that
occurs in a path is one of its segments, so the names listed for a path are the names that occur in
it, in the order of the places at which they do so first.
-/

namespace ClientGem.PathTemplate

def places (path name : List Char) : Set Nat :=
  {place | placeholderText name <+: path.drop place}

theorem exists_isSegmentation (path : List Char) : ∃ segments, IsSegmentation path segments := by
  have reading := isSegmentation_parse (String.ofList path)
  rw [String.toList_ofList] at reading
  exact ⟨_, reading⟩

section Reading

variable {path name : List Char}

/-- The text of a placeholder is a segment wherever it occurs: the segments of what stands around it
and the placeholder between them are a reading, and there is no other. -/
theorem IsSegmentation.exists_placeholder {segments : List Segment} {before after : List Char}
    (reading : IsSegmentation path segments) (isName : IsName name)
    (occurs : before ++ placeholderText name ++ after = path) :
    ∃ left right, segments = left ++ .placeholder name :: right ∧
      left.flatMap segmentText = before := by
  obtain ⟨left, readingBefore⟩ := exists_isSegmentation before
  obtain ⟨right, readingAfter⟩ := exists_isSegmentation after
  have whole := readingBefore.append_placeholder isName readingAfter
  rw [occurs] at whole
  exact ⟨left, right, reading.unique whole, readingBefore.text⟩

theorem IsSegmentation.placeholder_mem_iff {segments : List Segment}
    (reading : IsSegmentation path segments) :
    .placeholder name ∈ segments ↔ IsName name ∧ placeholderText name <:+: path := by
  constructor
  · intro member
    obtain ⟨left, right, rfl⟩ := List.append_of_mem member
    refine ⟨reading.wellFormed _ member, left.flatMap segmentText, right.flatMap segmentText, ?_⟩
    rw [← reading.text]
    simp [segmentText]
  · intro standing
    obtain ⟨isName, before, after, occurs⟩ := standing
    obtain ⟨left, right, rfl, -⟩ := reading.exists_placeholder isName occurs
    exact List.mem_append_right left List.mem_cons_self

/-- A placeholder does not begin before the segments among which it is not. -/
theorem IsSegmentation.le_of_mem_places {left right : List Segment}
    (reading : IsSegmentation path (left ++ right)) (isName : IsName name)
    (absent : .placeholder name ∉ left) {place : Nat} (begins : place ∈ places path name) :
    (left.flatMap segmentText).length ≤ place := by
  obtain ⟨after, behind⟩ := begins
  have occurs : path.take place ++ placeholderText name ++ after = path := by
    rw [List.append_assoc, behind, List.take_append_drop]
  obtain ⟨left', right', same, before⟩ := reading.exists_placeholder isName occurs
  have passed : (left'.flatMap segmentText).length ≤ place := by
    rw [before]
    exact List.length_take_le place path
  have covers : left <+: left' :=
    Text.prefix_of_prefix_append_cons absent ⟨right, same⟩
  obtain ⟨middle, rfl⟩ := covers
  rw [List.flatMap_append, List.length_append] at passed
  omega

/-- The first of the segments with some name tells where its placeholder begins first. -/
theorem IsSegmentation.isLeast_places {left right : List Segment}
    (reading : IsSegmentation path (left ++ .placeholder name :: right))
    (absent : .placeholder name ∉ left) :
    IsLeast (places path name) (left.flatMap segmentText).length := by
  have isName : IsName name := reading.wellFormed (.placeholder name) (by simp)
  refine ⟨⟨right.flatMap segmentText, ?_⟩, fun place => reading.le_of_mem_places isName absent⟩
  rw [← reading.text, List.flatMap_append, List.drop_left, List.flatMap_cons]
  rfl

end Reading

/-- Names read off the segments one after another are cut where the segments are. -/
theorem exists_split_of_names {segments : List Segment} {before after : List (List Char)}
    {name : List Char} (split : segments.filterMap Segment.name? = before ++ name :: after) :
    ∃ left right, segments = left ++ .placeholder name :: right ∧
      left.filterMap Segment.name? = before := by
  obtain ⟨left, behind, rfl, named, rest⟩ := List.filterMap_eq_append_iff.mp split
  obtain ⟨literals, segment, right, rfl, unnamed, same, -⟩ := List.filterMap_eq_cons_iff.mp rest
  refine ⟨left ++ literals, right, ?_, ?_⟩
  · cases segment with
    | literal text => cases same
    | placeholder other =>
      obtain rfl : other = name := Option.some.inj same
      simp
  · rw [List.filterMap_append, named, List.filterMap_eq_nil_iff.mpr unnamed, List.append_nil]

/-- The placeholder of the first name begins, for the first time, before that of the second. -/
def FirstBefore (path first second : List Char) : Prop :=
  ∃ place later, IsLeast (places path first) place ∧ IsLeast (places path second) later ∧
    place < later

theorem FirstBefore.asymm {path first second : List Char} (before : FirstBefore path first second) :
    ¬FirstBefore path second first := by
  intro ⟨place, later, leastSecond, leastFirst, less⟩
  obtain ⟨place', later', leastFirst', leastSecond', less'⟩ := before
  have sameFirst := leastFirst.unique leastFirst'
  have sameSecond := leastSecond.unique leastSecond'
  omega

/-- A name that is not among the segments up to the first of another name comes behind it. -/
theorem IsSegmentation.firstBefore {path first second : List Char} {left right : List Segment}
    (reading : IsSegmentation path (left ++ .placeholder first :: right))
    (absent : .placeholder first ∉ left)
    (behind : .placeholder second ∉ left ++ [.placeholder first])
    (member : .placeholder second ∈ left ++ .placeholder first :: right) :
    FirstBefore path first second := by
  obtain ⟨left', right', split, absent'⟩ := List.eq_append_cons_of_mem member
  have least := (split ▸ reading).isLeast_places absent'
  refine ⟨_, _, reading.isLeast_places absent, least, ?_⟩
  have whole : left ++ .placeholder first :: right = (left ++ [.placeholder first]) ++ right := by
    simp
  have isName : IsName second := (reading.placeholder_mem_iff.mp member).1
  have passed := (whole ▸ reading).le_of_mem_places isName behind least.1
  have nonempty : 0 < (placeholderText first).length := by simp [placeholderText]
  rw [List.flatMap_append, List.length_append, List.flatMap_singleton, segmentText] at passed
  omega

theorem pairwise_placeholderNames {path : List Char} {segments : List Segment}
    (reading : IsSegmentation path segments) :
    (placeholderNames segments).Pairwise (FirstBefore path) := by
  apply (pairwise_firstOccurrences [] (segments.filterMap Segment.name?)).imp_of_mem
  intro first second _ inSecond ⟨before, after, split, absent, behind⟩
  obtain ⟨left, right, rfl, names⟩ := exists_split_of_names split
  have unnamed {name : List Char} {segments : List Segment}
      (absent : name ∉ segments.filterMap Segment.name?) : .placeholder name ∉ segments :=
    fun member => absent (List.mem_filterMap.mpr ⟨_, member, rfl⟩)
  apply reading.firstBefore
  · exact unnamed (names ▸ absent)
  · apply unnamed
    rw [List.filterMap_append, names]
    exact behind
  · exact mem_placeholderNames.mp inSecond

/-- The names are those of the placeholders that occur in the path, each listed once, in the order
in which they first occur. -/
structure ListsPlaceholders (path : String) (names : List String) : Prop where
  mem_iff : ∀ name, name ∈ names ↔
    IsName name.toList ∧ placeholderText name.toList <:+: path.toList
  nodup : names.Nodup
  ordered : names.Pairwise fun first second => FirstBefore path.toList first.toList second.toList

theorem ListsPlaceholders.unique {path : String} {names other : List String}
    (lists : ListsPlaceholders path names) (lists' : ListsPlaceholders path other) :
    names = other := by
  have perm : names.Perm other :=
    (List.perm_ext_iff_of_nodup lists.nodup lists'.nodup).mpr fun name =>
      (lists.mem_iff name).trans (lists'.mem_iff name).symm
  exact perm.eq_of_pairwise (fun _ _ _ _ before behind => absurd behind before.asymm)
    lists.ordered lists'.ordered

theorem listsPlaceholders_params (path : String) : ListsPlaceholders path (params path) where
  mem_iff name := mem_params.trans (isSegmentation_parse path).placeholder_mem_iff
  nodup := nodup_params path
  ordered := by
    unfold params
    rw [List.pairwise_map]
    simpa using pairwise_placeholderNames (isSegmentation_parse path)

/-- The names of a path are one certain list: of all names that are not empty, hold no brace and
stand in braces somewhere in the path, each once, ordered by where they do so first. -/
theorem params_eq_iff_listsPlaceholders (path : String) (names : List String) :
    params path = names ↔ ListsPlaceholders path names := by
  constructor
  · intro same
    rw [← same]
    exact listsPlaceholders_params path
  · intro lists
    exact (listsPlaceholders_params path).unique lists

example : params "\x7ba\x7bb\x7d/\x7b\x7d/\x7bc\x7d\x7bb\x7d\x7d\x7bd" = ["b", "c"] := by decide

end ClientGem.PathTemplate
