import ClientGem.Proofs.PathTemplate.Names
import ClientGem.Proofs.Text.Split

/-!
Values put in place of placeholders, one name after another over the whole text. This gives the path
with each placeholder filled on its own, since what has been put in is never read again: values hold
no brace, and no name is made out of one.
-/

namespace ClientGem.PathTemplate

open Text

def fillSegment (value : List Char → List Char) : Segment → List Char
  | .literal text => text
  | .placeholder name => value name

/-- The segments in a row, with a text in place of each placeholder. -/
def fill (value : List Char → List Char) (segments : List Segment) : List Char :=
  segments.flatMap (fillSegment value)

theorem fill_congr {value other : List Char → List Char} {segments : List Segment}
    (same : ∀ name, .placeholder name ∈ segments → value name = other name) :
    fill value segments = fill other segments := by
  unfold fill
  apply List.flatMap_congr
  intro segment member
  cases segment with
  | literal text => rfl
  | placeholder name => exact same name member

/-- A path is its own reading with every placeholder left as it is. -/
theorem fill_placeholderText (path : String) : fill placeholderText (parse path) = path.toList := by
  have spelled : fillSegment placeholderText = segmentText := by
    funext segment
    cases segment with
    | literal text => rfl
    | placeholder name => rfl
  rw [fill, spelled]
  exact (isSegmentation_parse path).text

def knownText (known : List Char → Option (List Char)) (name : List Char) : List Char :=
  (known name).getD (placeholderText name)

def learn (name image : List Char) (known : List Char → Option (List Char)) :
    List Char → Option (List Char) :=
  fun other => (known other).or (if other = name then some image else none)

structure Inert (segments : List Segment) (name : List Char)
    (known : List Char → Option (List Char)) : Prop where
  no_open : ∀ {other value}, known other = some value → '\x7b' ∉ value
  no_close : ∀ {other value}, known other = some value → '\x7d' ∉ value
  /-- Where a literal brace is open, the name cannot be made out of a value. -/
  outside : ∀ text, .literal text ∈ segments → '\x7b' ∈ text →
    ∀ {other value}, known other = some value → ¬value <:+: name

theorem Inert.tail {segment : Segment} {segments : List Segment} {name : List Char}
    {known : List Char → Option (List Char)} (inert : Inert (segment :: segments) name known) :
    Inert segments name known where
  no_open := inert.no_open
  no_close := inert.no_close
  outside text member := inert.outside text (List.mem_cons_of_mem segment member)

theorem open_mem_of_begins {name later rest : List Char} (ne_nil : later ≠ [])
    (begins : placeholderText name <+: later ++ rest) : '\x7b' ∈ later := by
  obtain ⟨c, cs, rfl⟩ := List.exists_cons_of_ne_nil ne_nil
  rw [placeholderText, List.cons_append, List.cons_append] at begins
  obtain ⟨rfl, -⟩ := List.cons_prefix_cons.mp begins
  exact List.mem_cons_self

section Step

variable {path name : List Char} {segments : List Segment} {known : List Char → Option (List Char)}

/-- A name that is still open at the end of a literal, and closed behind it, goes on with a value:
what follows a literal is a placeholder, which has been filled or begins with a brace. -/
theorem value_of_closed {text : List Char}
    (reading : IsSegmentation path (.literal text :: segments))
    (no_close : ∀ {other value}, known other = some value → '\x7d' ∉ value)
    {inside more : List Char} (no_open : '\x7b' ∉ inside)
    (closed : fill (knownText known) segments = inside ++ '\x7d' :: more) :
    ∃ other value, known other = some value ∧ value <+: inside := by
  cases segments with
  | nil => simp [fill] at closed
  | cons segment segments =>
    cases segment with
    | literal other => exact reading.no_literals.elim
    | placeholder other =>
      rw [fill, List.flatMap_cons, fillSegment, knownText] at closed
      cases found : known other with
      | some value =>
        rw [found, Option.getD_some] at closed
        exact ⟨other, value, found,
          Text.prefix_of_prefix_append_cons (no_close found) ⟨_, closed⟩⟩
      | none =>
        rw [found, Option.getD_none, placeholderText] at closed
        cases inside with
        | nil => simp at closed
        | cons c inside =>
          obtain ⟨rfl, -⟩ := List.cons.inj closed
          exact absurd List.mem_cons_self no_open

theorem not_begins_literal {text : List Char}
    (reading : IsSegmentation path (.literal text :: segments)) (isName : IsName name)
    (inert : Inert (.literal text :: segments) name known) {later : List Char} (ne_nil : later ≠ [])
    (isSuffix : later <:+ text) :
    ¬placeholderText name <+: later ++ fill (knownText known) segments := by
  intro begins
  have opened : '\x7b' ∈ text := isSuffix.subset (open_mem_of_begins ne_nil begins)
  obtain ⟨c, inside, rfl⟩ := List.exists_cons_of_ne_nil ne_nil
  obtain ⟨more, same⟩ := begins
  simp only [placeholderText, List.cons_append, List.append_assoc, List.nil_append,
    List.cons.injEq] at same
  obtain ⟨rfl, same⟩ := same
  have unclosed (middle : List Char) (split : name = inside ++ middle)
      (closed : fill (knownText known) segments = middle ++ '\x7d' :: more) : False := by
    subst split
    have no_open : '\x7b' ∉ middle := fun member => isName.no_open (List.mem_append_right _ member)
    obtain ⟨other, value, found, isPrefix⟩ :=
      value_of_closed reading inert.no_close no_open closed
    exact inert.outside text List.mem_cons_self opened found
      (isPrefix.isInfix.trans (List.suffix_append inside middle).isInfix)
  rcases List.append_eq_append_iff.mp same with ⟨middle, split, closed⟩ | ⟨middle, split, closed⟩
  · cases middle with
    | nil => exact unclosed [] (by simpa using split.symm) (by simpa using closed.symm)
    | cons d middle =>
      obtain ⟨rfl, -⟩ := List.cons.inj closed
      have within : placeholderText name <:+: '\x7b' :: inside :=
        ⟨[], middle, by simp [placeholderText, split]⟩
      exact reading.head.2 name isName (within.trans isSuffix.isInfix)
  · exact unclosed middle split closed

theorem not_begins_placeholder {other rest : List Char} (isName : IsName name)
    (isName' : IsName other) (ne : name ≠ other) {later : List Char} (ne_nil : later ≠ [])
    (isSuffix : later <:+ placeholderText other) : ¬placeholderText name <+: later ++ rest := by
  intro begins
  rcases List.suffix_cons_iff.mp isSuffix with whole | inside
  · obtain ⟨more, same⟩ := begins
    rw [whole] at same
    exact ne (placeholder_append_inj isName isName' same).1
  · have opened := inside.subset (open_mem_of_begins ne_nil begins)
    simp [isName'.no_open] at opened

/-- Putting a value in place of one name fills the placeholders of this name and changes nothing
else, whatever has been filled before. -/
theorem replaceChars_fill (reading : IsSegmentation path segments) (isName : IsName name)
    (inert : Inert segments name known) (image : List Char) :
    replaceChars (placeholderText name) image (fill (knownText known) segments) =
      fill (knownText (learn name image known)) segments := by
  induction segments generalizing path with
  | nil => simp [fill, replaceChars]
  | cons segment segments ih =>
    have rest := ih reading.tail inert.tail
    have passed {text : List Char}
        (apart : ∀ later, later ≠ [] → later <:+ text →
          ¬placeholderText name <+: later ++ fill (knownText known) segments) :=
      (replaceChars_append image apart).trans (congrArg (text ++ ·) rest)
    cases segment with
    | literal text => exact passed fun _ => not_begins_literal reading isName inert
    | placeholder other =>
      have isName' : IsName other := reading.head
      cases found : known other with
      | some value =>
        have before : knownText known other = value := by simp [knownText, found]
        have after : knownText (learn name image known) other = value := by
          simp [knownText, learn, found]
        simp only [fill, List.flatMap_cons, fillSegment, before, after]
        apply passed
        intro later ne_nil isSuffix begins
        exact inert.no_open found (isSuffix.subset (open_mem_of_begins ne_nil begins))
      | none =>
        have before : knownText known other = placeholderText other := by simp [knownText, found]
        simp only [fill, List.flatMap_cons, fillSegment, before]
        by_cases same : other = name
        · subst same
          have after : knownText (learn other image known) other = image := by
            simp [knownText, learn, found]
          have ne_nil : placeholderText other ≠ [] := by simp [placeholderText]
          rw [after, replaceChars_pattern ne_nil]
          exact congrArg (image ++ ·) rest
        · have after : knownText (learn name image known) other = placeholderText other := by
            simp [knownText, learn, found, same]
          rw [after]
          apply passed
          intro later
          exact not_begins_placeholder isName isName' (Ne.symm same)

end Step

theorem Inert.learned {segments : List Segment} {name image : List Char}
    {known : List Char → Option (List Char)} (inert : Inert segments name known) (other : List Char)
    (no_open : '\x7b' ∉ image) (no_close : '\x7d' ∉ image)
    (outside : ∀ text, .literal text ∈ segments → '\x7b' ∈ text → ¬image <:+: name) :
    Inert segments name (learn other image known) := by
  have cases {third value : List Char} (found : learn other image known third = some value) :
      known third = some value ∨ value = image := by
    unfold learn at found
    rcases Option.or_eq_some_iff.mp found with earlier | ⟨-, new⟩
    · exact .inl earlier
    · split at new
      · exact .inr (Option.some.inj new).symm
      · cases new
  constructor
  · intro third value found
    rcases cases found with earlier | rfl
    · exact inert.no_open earlier
    · exact no_open
  · intro third value found
    rcases cases found with earlier | rfl
    · exact inert.no_close earlier
    · exact no_close
  · intro text member opened third value found
    rcases cases found with earlier | rfl
    · exact inert.outside text member opened earlier
    · exact outside text member opened

def firstValue (values : List (String × String)) (name : List Char) : Option (List Char) :=
  (values.find? (·.1.toList = name)).map (·.2.toList)

/-- Values that can be put in one after another: names can be names of placeholders, values hold no
brace, and where a literal brace is open no name holds a value. -/
structure CanSubstitute (segments : List Segment) (values : List (String × String)) : Prop where
  isName : ∀ pair ∈ values, IsName pair.1.toList
  no_open : ∀ pair ∈ values, '\x7b' ∉ pair.2.toList
  no_close : ∀ pair ∈ values, '\x7d' ∉ pair.2.toList
  outside : ∀ text, .literal text ∈ segments → '\x7b' ∈ text →
    ∀ pair ∈ values, ∀ other ∈ values, ¬pair.2.toList <:+: other.1.toList

theorem CanSubstitute.tail {segments : List Segment} {pair : String × String}
    {values : List (String × String)} (can : CanSubstitute segments (pair :: values)) :
    CanSubstitute segments values where
  isName other member := can.isName other (List.mem_cons_of_mem pair member)
  no_open other member := can.no_open other (List.mem_cons_of_mem pair member)
  no_close other member := can.no_close other (List.mem_cons_of_mem pair member)
  outside text member opened other inValues third inValues' :=
    can.outside text member opened other (List.mem_cons_of_mem pair inValues) third
      (List.mem_cons_of_mem pair inValues')

theorem learn_or_firstValue (pair : String × String) (values : List (String × String))
    (known : List Char → Option (List Char)) (name : List Char) :
    (learn pair.1.toList pair.2.toList known name).or (firstValue values name) =
      (known name).or (firstValue (pair :: values) name) := by
  unfold learn
  rw [Option.or_assoc]
  congr 1
  by_cases same : pair.1.toList = name
  · simp [firstValue, same]
  · simp [firstValue, same, Ne.symm same]

theorem foldl_replaceChars {path : List Char} {segments : List Segment}
    (reading : IsSegmentation path segments) {values : List (String × String)}
    (can : CanSubstitute segments values) {known : List Char → Option (List Char)}
    (inert : ∀ pair ∈ values, Inert segments pair.1.toList known) :
    values.foldl (fun text pair => replaceChars (placeholderText pair.1.toList) pair.2.toList text)
        (fill (knownText known) segments) =
      fill (knownText fun name => (known name).or (firstValue values name)) segments := by
  induction values generalizing known with
  | nil => simp [firstValue]
  | cons pair values ih =>
    have isName := can.isName pair List.mem_cons_self
    have first := replaceChars_fill reading isName (inert pair List.mem_cons_self) pair.2.toList
    have later : ∀ other ∈ values,
        Inert segments other.1.toList (learn pair.1.toList pair.2.toList known) := by
      intro other member
      apply (inert other (List.mem_cons_of_mem pair member)).learned
      · exact can.no_open pair List.mem_cons_self
      · exact can.no_close pair List.mem_cons_self
      · intro text inSegments opened
        exact can.outside text inSegments opened pair List.mem_cons_self other
          (List.mem_cons_of_mem pair member)
    rw [List.foldl_cons, first, ih can.tail later]
    simp only [learn_or_firstValue]

/-- One replacement after another over the whole text fills each placeholder with the first value
given for its name, and leaves those without a value. -/
theorem toList_substitute {path : String} {values : List (String × String)}
    (can : CanSubstitute (parse path) values) :
    (substitute path values).toList = fill (knownText (firstValue values)) (parse path) := by
  have start : path.toList = fill (knownText fun _ => none) (parse path) :=
    (fill_placeholderText path).symm
  have inert : ∀ pair ∈ values, Inert (parse path) pair.1.toList fun _ => none := by
    intro pair _
    constructor <;> simp
  rw [substitute, String.toList_ofList, start, foldl_replaceChars (isSegmentation_parse path) can
    inert]
  rfl

-- A name that is made out of a value is taken for the placeholder of this name.
example : substitute "\x7b\x7ba\x7d\x7d/\x7b1\x7d" [("a", "1"), ("1", "2")] = "2/2" := by cbv

/-- Where names are given once, a name has the value that is given for it anywhere in the list. -/
theorem firstValue_eq_some_iff {values : List (String × String)}
    (distinct : (values.map Prod.fst).Nodup) {name value : List Char} :
    firstValue values name = some value ↔
      ∃ pair ∈ values, pair.1.toList = name ∧ pair.2.toList = value := by
  unfold firstValue
  rw [Option.map_eq_some_iff]
  constructor
  · intro ⟨pair, found, same⟩
    exact ⟨pair, List.mem_of_find?_eq_some found, by simpa using List.find?_some found, same⟩
  · intro ⟨pair, member, named, same⟩
    refine ⟨pair, ?_, same⟩
    obtain ⟨before, after, rfl⟩ := List.append_of_mem member
    rw [List.map_append, List.map_cons, List.nodup_middle, List.nodup_cons] at distinct
    have apart : ∀ other ∈ before, other.1.toList ≠ name := by
      intro other earlier again
      have alike : other.1 = pair.1 := String.toList_inj.mp (again.trans named.symm)
      have listed : pair.1 ∈ before.map Prod.fst := alike ▸ List.mem_map_of_mem earlier
      exact distinct.1 (List.mem_append_left _ listed)
    have none : before.find? (·.1.toList = name) = none := by
      rw [List.find?_eq_none]
      intro other earlier
      simpa using apart other earlier
    rw [List.find?_append, none]
    simp [named]

theorem firstValue_of_perm {values other : List (String × String)} (perm : values.Perm other)
    (distinct : (values.map Prod.fst).Nodup) : firstValue values = firstValue other := by
  have distinct' : (other.map Prod.fst).Nodup := (perm.map Prod.fst).nodup_iff.mp distinct
  funext name
  ext value
  rw [firstValue_eq_some_iff distinct, firstValue_eq_some_iff distinct']
  simp only [perm.mem_iff]

/-- No literal segment of the path holds a brace, nor does any value, and the names are names of
placeholders. -/
structure Unbraced (path : String) (values : List (String × String)) : Prop where
  literal : ∀ text, .literal text ∈ parse path → '\x7b' ∉ text ∧ '\x7d' ∉ text
  isName : ∀ pair ∈ values, IsName pair.1.toList
  value : ∀ pair ∈ values, '\x7b' ∉ pair.2.toList ∧ '\x7d' ∉ pair.2.toList

namespace Unbraced

variable {path : String} {values other : List (String × String)}

theorem canSubstitute (unbraced : Unbraced path values) : CanSubstitute (parse path) values where
  isName := unbraced.isName
  no_open pair member := (unbraced.value pair member).1
  no_close pair member := (unbraced.value pair member).2
  outside text member opened := absurd opened (unbraced.literal text member).1

theorem of_perm (unbraced : Unbraced path values) (perm : values.Perm other) :
    Unbraced path other where
  literal := unbraced.literal
  isName pair member := unbraced.isName pair (perm.mem_iff.mpr member)
  value pair member := unbraced.value pair (perm.mem_iff.mpr member)

theorem substitute_eq (unbraced : Unbraced path values) :
    substitute path values = String.ofList (fill (knownText (firstValue values)) (parse path)) := by
  rw [← toList_substitute unbraced.canSubstitute, String.ofList_toList]

end Unbraced

/-- Without braces in the way, putting in one value after another is putting them in all at once:
each placeholder becomes the first value that is given for its name, or stays as it is. If no name
is given twice, the order in which the values are given does not matter. -/
theorem substitute_simultaneous {path : String} {values : List (String × String)}
    (unbraced : Unbraced path values) :
    substitute path values = String.ofList (fill (knownText (firstValue values)) (parse path)) ∧
      ((values.map Prod.fst).Nodup → ∀ other, values.Perm other →
        substitute path other = substitute path values) := by
  refine ⟨unbraced.substitute_eq, ?_⟩
  intro distinct other perm
  rw [(unbraced.of_perm perm).substitute_eq, unbraced.substitute_eq,
    firstValue_of_perm perm distinct]

def threadPath : String := "\x7bb\x7d/\x7ba\x7d\x7bc\x7d/\x7bb\x7d"

def threadValues : List (String × String) := [("a", "b"), ("b", "#\"")]

theorem substitute_simultaneous_thread :
    Unbraced threadPath threadValues ∧ (threadValues.map Prod.fst).Nodup ∧
      substitute threadPath threadValues = "#\"/b\x7bc\x7d/#\"" ∧
      substitute threadPath threadValues.reverse = substitute threadPath threadValues := by
  have segments : parse threadPath =
      [.placeholder ['b'], .literal ['/'], .placeholder ['a'], .placeholder ['c'], .literal ['/'],
        .placeholder ['b']] := by decide
  have unbraced : Unbraced threadPath threadValues := by
    refine ⟨?_, ?_, by decide⟩
    · rw [segments]
      simp
    · intro pair member
      rcases List.mem_pair.mp member with rfl | rfl
      · exact ⟨by decide, by decide, by decide⟩
      · exact ⟨by decide, by decide, by decide⟩
  have distinct : (threadValues.map Prod.fst).Nodup := by decide
  have simultaneous := substitute_simultaneous unbraced
  have filled : String.ofList (fill (knownText (firstValue threadValues)) (parse threadPath)) =
      "#\"/b\x7bc\x7d/#\"" := by
    rw [segments]
    decide
  exact ⟨unbraced, distinct, simultaneous.1.trans filled,
    simultaneous.2 distinct threadValues.reverse threadValues.reverse_perm.symm⟩

end ClientGem.PathTemplate
