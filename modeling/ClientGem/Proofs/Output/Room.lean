import ClientGem.Proofs.Output.Printout

/-!
Files printed on a device that has room for a certain number of bytes. What is printed is cut off
there, wherever in a file that is, and from then on every file is refused.
-/

namespace ClientGem.Output

variable {σ : Type}

structure PrintsWhatFits (sink : Sink (StateM σ) WriteError) (printed : σ → Bytes) (start : σ)
    (room : Nat) : Prop where
  printed_eq : ∀ files, printed (stateAfter sink start files) = (printoutOf files).take room
  taken_iff : ∀ earlier file, answerAfter sink start earlier file = .ok () ↔
    (printoutOf (earlier ++ [file])).length ≤ room
  named : ∀ earlier file, answerAfter sink start earlier file ≠ .ok () →
    answerAfter sink start earlier file = .error ⟨file.path, .incomplete⟩
  /-- No file is taken behind one that has been refused. -/
  lasting : ∀ earlier file between later, answerAfter sink start earlier file ≠ .ok () →
    answerAfter sink start (earlier ++ file :: between) later ≠ .ok ()

theorem length_printoutOf_le (files more : List File) :
    (printoutOf files).length ≤ (printoutOf (files ++ more)).length := by
  rw [printoutOf_append, List.length_append]
  exact Nat.le_add_right _ _

variable {device : Device (StateM σ)} {view : σ → Printout} {start : σ} {room : Nat}

theorem Device.PrintsOn.answerAfter_eq_ok_iff (prints : device.PrintsOn view)
    (blank : view start = { room := some room }) (earlier : List File) (file : File) :
    answerAfter device.sink start earlier file = .ok () ↔
      (printoutOf (earlier ++ [file])).length ≤ room := by
  have bounded : ({ room := some room } : Printout).room = some room := rfl
  rw [prints.answerAfter_eq, blank, ← Nat.sub_zero room]
  refine Iff.trans ?_ (Printout.fits_iff_of_bounded bounded)
  split
  · next fits => exact iff_of_true rfl fits
  · next full => exact iff_of_false nofun full

/-- Whatever parts a device takes at a time, as long as it has room: the files are printed up to the
last byte that fits, a file is taken just if it fits together with all before it, and any other is
named as the one that could not be written. -/
theorem printsWhatFits (prints : device.PrintsOn view)
    (blank : view start = { room := some room }) :
    PrintsWhatFits device.sink (fun state => (view state).printed) start room := by
  have taken_iff := prints.answerAfter_eq_ok_iff blank
  constructor
  case printed_eq =>
    intro files
    rw [prints.view_stateAfter, blank]
    rfl
  case taken_iff => exact taken_iff
  case named =>
    intro earlier file refused
    rw [prints.answerAfter_eq] at refused ⊢
    split at refused
    · exact absurd rfl refused
    · next full => exact if_neg full
  case lasting =>
    intro earlier file between later refused taken
    have all :
        earlier ++ file :: between ++ [later] = (earlier ++ [file]) ++ (between ++ [later]) := by
      simp
    have fits := (taken_iff _ later).mp taken
    rw [all] at fits
    exact refused ((taken_iff earlier file).mpr (Nat.le_trans (length_printoutOf_le _ _) fits))

theorem printsWhatFits_severed : Printout.device.PrintsOn id ∧
    id ({ room := some 14 } : Printout) = { room := some 14 } ∧
    PrintsWhatFits Printout.sink Printout.printed { room := some 14 } 14 ∧
    (stateAfter Printout.sink { room := some 14 }
      [⟨⟨"a"⟩, "x😀"⟩, ⟨⟨"b"⟩, ""⟩]).printed = bytesOf "=== a ===\nx" ++ [0xF0, 0x9F, 0x98] ∧
    answerAfter Printout.sink { room := some 14 } [] ⟨⟨"a"⟩, "x😀"⟩ =
      .error ⟨⟨"a"⟩, .incomplete⟩ ∧
    answerAfter Printout.sink { room := some 14 } [⟨⟨"a"⟩, "x😀"⟩] ⟨⟨"b"⟩, ""⟩ =
      .error ⟨⟨"b"⟩, .incomplete⟩ := by
  have fits : PrintsWhatFits Printout.sink Printout.printed { room := some 14 } 14 :=
    printsWhatFits Printout.printsOn_device rfl
  have refused : answerAfter Printout.sink { room := some 14 } [] ⟨⟨"a"⟩, "x😀"⟩ ≠ .ok () := by
    rw [Ne, fits.taken_iff]
    decide
  exact ⟨Printout.printsOn_device, rfl, fits, (fits.printed_eq _).trans (by decide),
    fits.named _ _ refused, fits.named _ _ (fits.lasting [] _ [] _ refused)⟩

end ClientGem.Output
