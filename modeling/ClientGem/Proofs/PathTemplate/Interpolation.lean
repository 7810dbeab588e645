import ClientGem.Proofs.PathTemplate.Segmentation
import ClientGem.Proofs.Ruby.StringBody

/-!
Interpolating a path and reading the result as the body of a string gives the segments of the path
back, so the path decides what is interpolated, and nothing in its text does.
-/

namespace ClientGem.PathTemplate

open Ruby

theorem read_flatMap_interpolateSegment {path : List Char} {segments : List Segment}
    (reading : IsSegmentation path segments) :
    StringBody.read (segments.flatMap interpolateSegment) = some segments := by
  induction segments generalizing path with
  | nil => rfl
  | cons segment segments ih =>
    rw [List.flatMap_cons]
    have rest := ih reading.tail
    cases segment with
    | literal text =>
      have separate : ∀ other more, segments ≠ .literal other :: more := by
        rintro other more rfl
        have separated : Separated (.literal text) (.literal other) :=
          (List.isChain_cons_cons.mp reading.separated).1
        exact separated rfl rfl
      rw [interpolateSegment, StringBody.read_escapeChars, rest, Option.map_some,
        StringBody.addText_cons reading.head.1 separate]
    | placeholder name =>
      have isName : IsName name := reading.head
      rw [StringBody.read_interpolation name _ isName.no_close, rest, Option.map_some]

theorem read_interpolate (path : String) :
    StringBody.read (interpolate path).toList = some (parse path) := by
  unfold interpolate
  rw [String.toList_ofList]
  exact read_flatMap_interpolateSegment (isSegmentation_parse path)

theorem interpolate_injective : Function.Injective interpolate := by
  intro first second same
  have segments : parse first = parse second := by
    have reading := read_interpolate first
    rw [same, read_interpolate second] at reading
    exact (Option.some.inj reading).symm
  have texts : first.toList = second.toList := by
    rw [← (isSegmentation_parse first).text, ← (isSegmentation_parse second).text, segments]
  exact String.toList_inj.mp texts

/-- The body of a generated string is read as the segments of the path, in order. The text of a
literal segment neither ends the string nor begins an interpolation, whatever stands behind it, and
different paths have different bodies. -/
theorem interpolate_reads_back :
    (∀ path, StringBody.read (interpolate path).toList = some (parse path)) ∧
    (∀ text rest, StringBody.read (interpolateSegment (.literal text) ++ rest) =
      (StringBody.read rest).map (StringBody.addText text)) ∧
    Function.Injective interpolate :=
  ⟨read_interpolate, StringBody.read_escapeChars, interpolate_injective⟩

end ClientGem.PathTemplate
