import ClientGem.Unicode.Casing

/-!
Characters that do not come out of the upper or lower case of others: the line break, and letters
and marks that the tables of mappings do not give.
-/

namespace ClientGem.Unicode

theorem eq_toNat_of_ofNat {n : Nat} {d : Char} (visible : d ≠ '\x00') (same : Char.ofNat n = d) :
    n = d.toNat := by
  by_cases valid : n.isValidChar
  · have kept : Char.ofNat n = Char.ofNatAux n valid := dif_pos valid
    have value : (Char.ofNat n).toNat = n := by
      rw [kept]
      rfl
    rw [← same, value]
  · have zero : Char.ofNat n = '\x00' := dif_neg valid
    exact absurd (same.symm.trans zero) visible

theorem eq_of_toUpper {c d : Char} (noCapital : d.isUpper = false) (same : c.toUpper = d) :
    c = d := by
  delta Char.toUpper at same
  split at same
  · next lower =>
    have bounds : 97 ≤ c.val.toNat ∧ c.val.toNat ≤ 122 := lower
    have value : (c.val + 4294967264).toNat = (c.val.toNat + 4294967264) % 4294967296 :=
      UInt32.toNat_add ..
    have image : d.val.toNat = (c.val + 4294967264).toNat := by
      rw [← same]
      rfl
    have capital : d.isUpper = true :=
      decide_eq_true (show 65 ≤ d.val.toNat ∧ d.val.toNat ≤ 90 by omega)
    rw [capital] at noCapital
    cases noCapital
  · exact same

theorem eq_of_toLower {c d : Char} (noSmall : d.isLower = false) (same : c.toLower = d) :
    c = d := by
  delta Char.toLower at same
  split at same
  · next upper =>
    have bounds : 65 ≤ c.val.toNat ∧ c.val.toNat ≤ 90 := upper
    have value : (c.val + 32).toNat = (c.val.toNat + 32) % 4294967296 := UInt32.toNat_add ..
    have image : d.val.toNat = (c.val + 32).toNat := by
      rw [← same]
      rfl
    have low : 97 ≤ d.val.toNat := by omega
    have high : d.val.toNat ≤ 122 := by omega
    have small : d.isLower = true :=
      Bool.and_eq_true_iff.mpr ⟨decide_eq_true low, decide_eq_true high⟩
    rw [small] at noSmall
    cases noSmall
  · exact same

def isImage (sequences : List (Nat × List Nat)) (runs : List CaseRun) (d : Char) : Bool :=
  sequences.any (fun entry => entry.2.contains d.toNat) ||
    runs.any fun run => run.image ≤ d.toNat && d.toNat ≤ run.image + (run.last - run.first)

theorem not_mem_mapCase {sequences : List (Nat × List Nat)} {runs : List CaseRun} {c d : Char}
    (visible : d ≠ '\x00') (absent : isImage sequences runs d = false) (ne : c ≠ d) :
    d ∉ mapCase sequences runs c := by
  obtain ⟨noSequence, noRun⟩ : (∀ entry ∈ sequences, d.toNat ∉ entry.2) ∧ ∀ run ∈ runs,
      run.image ≤ d.toNat → run.image + (run.last - run.first) < d.toNat := by
    simp only [isImage, Bool.or_eq_false_iff, List.any_eq_false, List.contains_iff_mem,
      Bool.and_eq_true, decide_eq_true_eq, not_and, Nat.not_le] at absent
    exact absent
  intro member
  unfold mapCase at member
  split at member
  · next image found =>
    obtain ⟨n, inImage, same⟩ := List.mem_map.mp member
    obtain ⟨entry, inTable, sameImage⟩ : ∃ entry ∈ sequences, entry.2 = image := by
      obtain ⟨before, after, split, _⟩ := List.lookup_eq_some_iff.mp found
      exact ⟨(c.toNat, image), by simp [split], rfl⟩
    rw [eq_toNat_of_ofNat visible same] at inImage
    exact noSequence entry inTable (sameImage ▸ inImage)
  · split at member
    · next image found =>
      obtain ⟨run, inRuns, applied⟩ := List.exists_of_findSome?_eq_some found
      have imageEq : image = d.toNat :=
        eq_toNat_of_ofNat visible (List.mem_singleton.mp member).symm
      have beyond := noRun run inRuns
      rw [CaseRun.apply] at applied
      split at applied
      · rw [Option.some.injEq] at applied
        omega
      · cases applied
    · exact ne (List.mem_singleton.mp member).symm

theorem length_mapCase_le {sequences : List (Nat × List Nat)} {bound : Nat} (positive : 0 < bound)
    (each : ∀ entry ∈ sequences, entry.2.length ≤ bound) (runs : List CaseRun) (c : Char) :
    (mapCase sequences runs c).length ≤ bound := by
  unfold mapCase
  split
  · next image found =>
    obtain ⟨before, after, split, -⟩ := List.lookup_eq_some_iff.mp found
    have inTable : (c.toNat, image) ∈ sequences := by simp [split]
    rw [List.length_map]
    exact each _ inTable
  · split <;> exact positive

theorem length_toUpper_le (c : Char) : (toUpper c).length ≤ 3 := by
  unfold toUpper
  split
  · exact Nat.le_add_left 1 2
  · exact length_mapCase_le (by decide) (by decide +kernel) upperRuns c

theorem not_mem_toUpper {c d : Char} (visible : d ≠ '\x00') (noCapital : d.isUpper = false)
    (absent : isImage upperSequences upperRuns d = false) (ne : c ≠ d) : d ∉ toUpper c := by
  unfold toUpper
  split
  · exact fun member => ne (eq_of_toUpper noCapital (List.mem_singleton.mp member).symm)
  · exact not_mem_mapCase visible absent ne

theorem not_mem_toLower {c d : Char} (visible : d ≠ '\x00') (noSmall : d.isLower = false)
    (absent : isImage lowerSequences lowerRuns d = false) (ne : c ≠ d) : d ∉ toLower c := by
  unfold toLower
  split
  · exact fun member => ne (eq_of_toLower noSmall (List.mem_singleton.mp member).symm)
  · exact not_mem_mapCase visible absent ne

theorem newline_not_mem_toUpper {c : Char} (ne : c ≠ '\n') : '\n' ∉ toUpper c :=
  not_mem_toUpper (by decide) (by decide) (by decide +kernel) ne

theorem newline_not_mem_lowerFrom (before : List Char) {text : List Char}
    (unbroken : '\n' ∉ text) : '\n' ∉ lowerFrom before text := by
  induction text generalizing before with
  | nil => exact unbroken
  | cons c text ih =>
    rw [List.mem_cons, not_or] at unbroken
    have image : '\n' ∉ toLower c :=
      not_mem_toLower (by decide) (by decide) (by decide +kernel) fun same => unbroken.1 same.symm
    rw [lowerFrom, List.mem_append, not_or]
    refine ⟨?_, ih _ unbroken.2⟩
    split
    · split <;> decide
    · exact image

end ClientGem.Unicode
