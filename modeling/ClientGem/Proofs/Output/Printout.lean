import ClientGem.Output.Bounded
import ClientGem.Proofs.Output.View
import Mathlib.Data.List.Induction
import Mathlib.Data.List.TakeDrop

/-!
Files printed piece by piece on a device that takes as much at a time as it likes, as long as there
is room. It makes no difference: a file might as well be printed at once. Where there is room for
everything, no file is refused, and they stand behind one another in the order in which they come.
-/

namespace ClientGem.Output

def printoutOf (files : List File) : Bytes :=
  files.flatMap fun file => bytesOf (Printout.block file.path file.content)

theorem bytesOf_append (text more : String) :
    bytesOf (text ++ more) = bytesOf text ++ bytesOf more := by
  simp [bytesOf]

theorem printoutOf_append (files more : List File) :
    printoutOf (files ++ more) = printoutOf files ++ printoutOf more :=
  List.flatMap_append

theorem printoutOf_concat (files : List File) (file : File) :
    printoutOf (files ++ [file]) =
      printoutOf files ++ bytesOf (Printout.block file.path file.content) := by
  rw [printoutOf_append]
  simp [printoutOf]

namespace Printout

theorem bytesOf_block (path : FilePath) (content : String) :
    bytesOf (block path content) = (pieces path content).flatMap bytesOf := by
  simp [block, pieces, bytesOf_append]

theorem block_ne_nil (path : FilePath) (content : String) : bytesOf (block path content) ≠ [] := by
  have piece : bytesOf "=== " ≠ [] := by decide
  rw [bytesOf_block, pieces, List.flatMap_cons]
  exact List.append_ne_nil_of_left_ne_nil piece _

theorem add_add (printout : Printout) (first second : Bytes) :
    (printout.add first).add second = printout.add (first ++ second) := by
  simp [add]

theorem add_nil (printout : Printout) : printout.add [] = printout := by
  simp [add]

def Fits (printout : Printout) (bytes : Bytes) : Prop :=
  printout.fitting bytes = bytes

instance {printout : Printout} {bytes : Bytes} : Decidable (printout.Fits bytes) :=
  inferInstanceAs (Decidable (_ = _))

theorem fits_of_unbounded {printout : Printout} (unbounded : printout.room = none)
    (bytes : Bytes) : printout.Fits bytes := by
  rw [Fits, fitting, unbounded]

theorem fits_iff_of_bounded {printout : Printout} {room : Nat} (bounded : printout.room = some room)
    {bytes : Bytes} : printout.Fits bytes ↔ bytes.length ≤ room - printout.printed.length := by
  rw [Fits, fitting, bounded]
  exact List.take_eq_self_iff bytes

section Fitting

variable {printout : Printout} {first : Bytes}

theorem fitting_append (printout : Printout) (first second : Bytes) :
    printout.fitting (first ++ second) =
      printout.fitting first ++ (printout.add (printout.fitting first)).fitting second := by
  cases bound : printout.room with
  | none => simp [fitting, add, bound]
  | some room =>
    have left : room - printout.printed.length - min (room - printout.printed.length) first.length =
        room - printout.printed.length - first.length := by omega
    simp [fitting, add, bound, List.take_append, Nat.sub_add_eq, left]

/-- Once something has been cut off there is no room for anything. -/
theorem fitting_eq_nil_of_not_fits (full : ¬printout.Fits first) (second : Bytes) :
    (printout.add (printout.fitting first)).fitting second = [] := by
  cases bound : printout.room with
  | none => exact absurd (fits_of_unbounded bound first) full
  | some room =>
    rw [fits_iff_of_bounded bound] at full
    simp only [fitting, add, bound, List.length_append, List.length_take, List.take_eq_nil_iff]
    exact .inl (by omega)

theorem fits_append (second : Bytes) :
    printout.Fits (first ++ second) ↔ printout.Fits first ∧ (printout.add first).Fits second := by
  cases bound : printout.room with
  | none =>
    have later : (printout.add first).room = none := bound
    exact iff_of_true (fits_of_unbounded bound _)
      ⟨fits_of_unbounded bound first, fits_of_unbounded later second⟩
  | some room =>
    have later : (printout.add first).room = some room := bound
    rw [fits_iff_of_bounded bound, fits_iff_of_bounded bound, fits_iff_of_bounded later, add,
      List.length_append, List.length_append]
    omega

theorem fits_behind_iff {second : Bytes} (ne_nil : second ≠ []) :
    (printout.add (printout.fitting first)).Fits second ↔ printout.Fits (first ++ second) := by
  rw [fits_append]
  by_cases fits : printout.Fits first
  · have whole : printout.fitting first = first := fits
    rw [whole]
    exact (and_iff_right fits).symm
  · refine iff_of_false ?_ fun both => fits both.1
    rw [Fits, fitting_eq_nil_of_not_fits fits]
    exact ne_nil.symm

theorem fitting_prefix (printout : Printout) (bytes : Bytes) :
    printout.fitting bytes <+: bytes := by
  unfold fitting
  split
  · exact List.prefix_refl bytes
  · exact List.take_prefix _ bytes

theorem fitting_nil (printout : Printout) : printout.fitting [] = [] :=
  List.prefix_nil.mp (printout.fitting_prefix [])

theorem fits_take {bytes : Bytes} {count : Nat} (few : count ≤ (printout.fitting bytes).length) :
    printout.Fits (bytes.take count) := by
  cases bound : printout.room with
  | none => exact fits_of_unbounded bound _
  | some room =>
    rw [fitting, bound, List.length_take] at few
    rw [fits_iff_of_bounded bound, List.length_take]
    omega

end Fitting

def printAtOnce (bytes : Bytes) : ExceptT FileFault (StateM Printout) Unit :=
  fun printout =>
    (if printout.Fits bytes then .ok () else .error .incomplete,
      printout.add (printout.fitting bytes))

theorem printAtOnce_of_fits {printout : Printout} {bytes : Bytes} (fits : printout.Fits bytes) :
    printAtOnce bytes printout = (.ok (), printout.add bytes) := by
  have whole : printout.fitting bytes = bytes := fits
  rw [printAtOnce, if_pos fits, whole]

theorem printAtOnce_of_not_fits {printout : Printout} {bytes : Bytes}
    (full : ¬printout.Fits bytes) :
    printAtOnce bytes printout = (.error .incomplete, printout.add (printout.fitting bytes)) := by
  rw [printAtOnce, if_neg full]

theorem printAtOnce_nil : printAtOnce [] = pure () := by
  funext printout
  rw [printAtOnce_of_fits printout.fitting_nil, add_nil]
  rfl

/-- What has been taken already need not be looked at again. -/
theorem printAtOnce_append_of_fits {printout : Printout} {first : Bytes}
    (fits : printout.Fits first) (second : Bytes) :
    printAtOnce (first ++ second) printout = printAtOnce second (printout.add first) := by
  have whole : printout.fitting first = first := fits
  simp only [printAtOnce, fits_append, fits, true_and, fitting_append, whole, add_add]

theorem printAtOnce_append (first second : Bytes) :
    printAtOnce (first ++ second) = (do printAtOnce first; printAtOnce second) := by
  funext printout
  by_cases fits : printout.Fits first
  · rw [printAtOnce_append_of_fits fits, bind_of_ok (printAtOnce_of_fits fits)]
  · have neither : ¬printout.Fits (first ++ second) := fun both => fits ((fits_append _).mp both).1
    rw [bind_of_error (printAtOnce_of_not_fits fits), printAtOnce_of_not_fits neither,
      fitting_append, fitting_eq_nil_of_not_fits fits, List.append_nil]

def sinkAtOnce : Sink (StateM Printout) WriteError :=
  fun path content => naming path (printAtOnce (bytesOf (block path content)))

theorem stateAfter_sinkAtOnce (start : Printout) (files : List File) :
    stateAfter sinkAtOnce start files = start.add (start.fitting (printoutOf files)) := by
  induction files using List.reverseRecOn with
  | nil =>
    have none : start.fitting (printoutOf []) = [] := start.fitting_nil
    rw [none, add_nil]
    rfl
  | append_singleton files file ih =>
    rw [stateAfter_append, ih, printoutOf_concat, fitting_append, ← add_add]
    rfl

/-- A file is taken if there is room for it behind those before it. That is so only if they have all
been taken, since no file is printed without a single byte. -/
theorem answerAfter_sinkAtOnce (start : Printout) (earlier : List File) (file : File) :
    answerAfter sinkAtOnce start earlier file =
      if start.Fits (printoutOf (earlier ++ [file])) then .ok ()
      else .error ⟨file.path, .incomplete⟩ := by
  have behind : (start.add (start.fitting (printoutOf earlier))).Fits
      (bytesOf (block file.path file.content)) ↔ start.Fits (printoutOf earlier ++ _) :=
    fits_behind_iff (block_ne_nil file.path file.content)
  rw [answerAfter, stateAfter_sinkAtOnce, sinkAtOnce, naming, adapt_apply, printAtOnce]
  simp only [behind, printoutOf_concat]
  split <;> rfl

end Printout

section Device

variable {σ : Type} {device : Device (StateM σ)} {view : σ → Printout}

/-- A device that is seen as a printout: of the bytes it is given it takes some that still fit, and
none only when there is no room for any. -/
def Device.PrintsOn (device : Device (StateM σ)) (view : σ → Printout) : Prop :=
  ∀ bytes state, bytes ≠ [] → ∃ taken next, device bytes state = (.ok taken, next) ∧
    view next = (view state).add (bytes.take taken) ∧
    taken ≤ ((view state).fitting bytes).length ∧
    (taken = 0 → (view state).fitting bytes = [])

/-- However little is taken at a time, it comes to what would be printed at once. -/
theorem Device.PrintsOn.writeAll (prints : device.PrintsOn view) (bytes : Bytes) :
    ShowsAs view (device.writeAll bytes) (Printout.printAtOnce bytes) := by
  induction bytes using Device.writeAll.induct with
  | case1 =>
    rw [Device.writeAll, Printout.printAtOnce_nil]
    exact .pure ()
  | case2 byte rest ih =>
    intro state
    obtain ⟨taken, next, called, seen, few, none⟩ :=
      prints (byte :: rest) state (List.cons_ne_nil byte rest)
    rw [Device.writeAll, bind_of_ok called]
    cases taken with
    | zero =>
      -- Nothing was taken of something, so that it is cut off here.
      have full : ¬(view state).Fits (byte :: rest) := by
        rw [Printout.Fits, none rfl]
        exact (List.cons_ne_nil byte rest).symm
      rw [Printout.printAtOnce_of_not_fits full, none rfl]
      exact Prod.ext rfl seen.symm
    | succ taken =>
      have whole : (byte :: rest).take (taken + 1) ++ rest.drop taken = byte :: rest :=
        List.take_append_drop (taken + 1) (byte :: rest)
      have behind := Printout.printAtOnce_append_of_fits (Printout.fits_take few) (rest.drop taken)
      rw [whole, ← seen] at behind
      exact behind.trans (ih taken next)

theorem Device.PrintsOn.forM_writeAll (prints : device.PrintsOn view) (texts : List String) :
    ShowsAs view (texts.forM fun text => device.writeAll (bytesOf text))
      (Printout.printAtOnce (texts.flatMap bytesOf)) := by
  induction texts with
  | nil =>
    rw [List.flatMap_nil, Printout.printAtOnce_nil]
    exact .pure ()
  | cons text texts ih =>
    rw [List.flatMap_cons, Printout.printAtOnce_append]
    exact (prints.writeAll (bytesOf text)).bind fun _ => ih

/-- The pieces of a block, and the parts in which each is taken, come to the block at once. -/
theorem Device.PrintsOn.sink (prints : device.PrintsOn view) (path : FilePath) (content : String) :
    ShowsAs view (device.sink path content) (Printout.sinkAtOnce path content) := by
  unfold Device.sink Printout.sinkAtOnce
  rw [Printout.bytesOf_block]
  exact (prints.forM_writeAll _).adapt _

theorem Device.PrintsOn.view_stateAfter (prints : device.PrintsOn view) (start : σ)
    (files : List File) : view (stateAfter device.sink start files) =
      (view start).add ((view start).fitting (printoutOf files)) := by
  rw [Output.view_stateAfter prints.sink, Printout.stateAfter_sinkAtOnce]

theorem Device.PrintsOn.answerAfter_eq (prints : device.PrintsOn view) (start : σ)
    (earlier : List File) (file : File) : answerAfter device.sink start earlier file =
      if (view start).Fits (printoutOf (earlier ++ [file])) then .ok ()
      else .error ⟨file.path, .incomplete⟩ := by
  rw [answerAfter_view prints.sink, Printout.answerAfter_sinkAtOnce]

end Device

namespace Printout

theorem printsOn_device : device.PrintsOn id := by
  intro bytes printout _
  have taken := List.prefix_iff_eq_take.mp (printout.fitting_prefix bytes)
  exact ⟨(printout.fitting bytes).length, printout.add (printout.fitting bytes), rfl,
    congrArg printout.add taken, Nat.le_refl _, List.eq_nil_of_length_eq_zero⟩

section Unbounded

variable {start : Printout} (unbounded : start.room = none)
include unbounded

theorem stateAfter_sink (files : List File) :
    stateAfter sink start files = start.add (printoutOf files) := by
  have whole : start.fitting (printoutOf files) = printoutOf files := fits_of_unbounded unbounded _
  exact (printsOn_device.view_stateAfter start files).trans (congrArg start.add whole)

theorem takes_sink (files : List File) : Takes sink start files := by
  intro earlier file later _
  exact (printsOn_device.answerAfter_eq start earlier file).trans
    (if_pos (fits_of_unbounded unbounded _))

end Unbounded

end Printout

end ClientGem.Output
