import ClientGem.Proofs.Text.Split
import ClientGem.Proofs.Unicode.Casing
import ClientGem.Ruby.Name

/-!
Which characters the names of generated code can hold.
-/

namespace ClientGem.Ruby

def underscored (c : Char) : Char :=
  if c = '-' then '_' else c

theorem toList_fileStem (apiName : String) :
    (fileStem apiName).toList = apiName.toList.map underscored :=
  String.toList_ofList

/-- Only dashes and underscores are confused in the stem. -/
theorem underscored_eq_iff {c other : Char} (ne_dash : other ≠ '-') (ne_underscore : other ≠ '_') :
    underscored c = other ↔ c = other := by
  unfold underscored
  split
  · next dash =>
    rw [dash]
    exact ⟨fun same => absurd same.symm ne_underscore, fun same => absurd same.symm ne_dash⟩
  · rfl

theorem mem_of_mem_fileStem {apiName : String} {c : Char} (ne : c ≠ '_')
    (member : c ∈ (fileStem apiName).toList) : c ∈ apiName.toList := by
  rw [toList_fileStem, List.mem_map] at member
  obtain ⟨d, inName, same⟩ := member
  unfold underscored at same
  split at same
  · exact absurd same.symm ne
  · exact same ▸ inName

theorem fileStem_ne_nil {apiName : String} (ne_nil : apiName.toList ≠ []) :
    (fileStem apiName).toList ≠ [] := by
  rw [toList_fileStem]
  simpa using ne_nil

section Characters

variable {d : Char} (noImage : ∀ {c : Char}, c ≠ d → d ∉ Unicode.toUpper c)
include noImage

theorem not_mem_capitalizeChars {cs : List Char} (absent : d ∉ cs) : d ∉ capitalizeChars cs := by
  cases cs with
  | nil => exact absent
  | cons c cs =>
    rw [List.mem_cons, not_or] at absent
    unfold capitalizeChars
    rw [List.mem_append, not_or]
    exact ⟨noImage fun same => absent.1 same.symm, absent.2⟩

/-- The words of a name, and so the module, hold no character that the name does not hold, unless it
is a capital one. -/
theorem not_mem_moduleName {apiName : String} (absent : d ∈ apiName.toList → isSeparator d = true) :
    d ∉ (moduleName apiName).toList := by
  unfold moduleName
  rw [String.toList_ofList, moduleChars]
  intro member
  obtain ⟨word, inWords, inCapitalized⟩ := List.mem_flatMap.mp member
  have inPieces := (List.mem_filter.mp inWords).1
  have inWord : d ∉ word := by
    intro inside
    obtain ⟨inName, keep⟩ := Text.mem_of_mem_splitChars inPieces inside
    rw [absent inName] at keep
    cases keep
  exact not_mem_capitalizeChars noImage inWord inCapitalized

end Characters

theorem length_capitalizeChars (cs : List Char) :
    cs.length ≤ (capitalizeChars cs).length ∧ (capitalizeChars cs).length ≤ cs.length + 2 := by
  cases cs with
  | nil => decide
  | cons c cs =>
    have some := List.length_pos_iff.mpr (Unicode.toUpper_ne_nil c)
    have few := Unicode.length_toUpper_le c
    rw [capitalizeChars, List.length_append, List.length_cons]
    omega

/-- A name gives no module name only when there is nothing in it but separators. -/
theorem moduleName_eq_empty_iff (apiName : String) :
    moduleName apiName = "" ↔ ∀ c ∈ apiName.toList, isSeparator c = true := by
  rw [moduleName, String.ofList_eq_empty_iff, moduleChars, List.flatMap_eq_nil_iff]
  constructor
  · intro empty c member
    cases keep : isSeparator c with
    | true => rfl
    | false =>
      obtain ⟨word, inWords, inWord⟩ := Text.exists_piece member keep
      have nonempty : 0 < word.length := List.length_pos_of_mem inWord
      have none := empty word (List.mem_filter.mpr ⟨inWords, by simp [List.ne_nil_of_mem inWord]⟩)
      have some := (length_capitalizeChars word).1
      rw [none, List.length_nil] at some
      omega
  · intro separators word member
    obtain ⟨inWords, nonempty⟩ := List.mem_filter.mp member
    obtain ⟨c, rest, rfl⟩ := List.exists_cons_of_ne_nil (by simpa using nonempty)
    obtain ⟨inName, keep⟩ := Text.mem_of_mem_splitChars inWords List.mem_cons_self
    rw [separators c inName] at keep
    cases keep

theorem newline_not_mem_capitalizeChars {cs : List Char} (unbroken : '\n' ∉ cs) :
    '\n' ∉ capitalizeChars cs :=
  not_mem_capitalizeChars Unicode.newline_not_mem_toUpper unbroken

theorem newline_not_mem_moduleName {apiName : String} (unbroken : '\n' ∉ apiName.toList) :
    '\n' ∉ (moduleName apiName).toList :=
  not_mem_moduleName Unicode.newline_not_mem_toUpper fun broken => absurd broken unbroken

theorem underscore_not_mem_moduleName (apiName : String) : '_' ∉ (moduleName apiName).toList :=
  not_mem_moduleName
    (fun other => Unicode.not_mem_toUpper (by decide) (by decide) (by decide +kernel) other)
    fun _ => by decide

theorem bounds_of_isAlpha {c : Char} (letter : c.isAlpha = true) :
    65 ≤ c.val.toNat ∧ c.val.toNat ≤ 90 ∨ 97 ≤ c.val.toNat ∧ c.val.toNat ≤ 122 := by
  have kinds : c.isUpper = true ∨ c.isLower = true := Bool.or_eq_true_iff.mp letter
  refine kinds.imp (fun upper => of_decide_eq_true upper) (fun lower => ?_)
  obtain ⟨low, high⟩ := Bool.and_eq_true_iff.mp lower
  exact ⟨of_decide_eq_true low, of_decide_eq_true high⟩

theorem isUpper_toUpper {c : Char} (letter : c.isAlpha = true) : c.toUpper.isUpper = true := by
  have bounds := bounds_of_isAlpha letter
  apply decide_eq_true
  show 65 ≤ c.toUpper.val.toNat ∧ c.toUpper.val.toNat ≤ 90
  delta Char.toUpper
  split
  · next lower =>
    have small : 97 ≤ c.val.toNat ∧ c.val.toNat ≤ 122 := lower
    have value : (c.val + 4294967264).toNat = (c.val.toNat + 4294967264) % 4294967296 :=
      UInt32.toNat_add ..
    show 65 ≤ (c.val + 4294967264).toNat ∧ (c.val + 4294967264).toNat ≤ 90
    omega
  · next other =>
    have notSmall : ¬(97 ≤ c.val.toNat ∧ c.val.toNat ≤ 122) := other
    omega

/-- A letter that the name begins with stands, in upper case, at the front of the module. -/
theorem moduleName_cons {apiName : String} {c : Char} {rest : List Char}
    (begins : apiName.toList = c :: rest) (letter : c.isAlpha = true) :
    ∃ more, (moduleName apiName).toList = c.toUpper :: more := by
  have kept : isSeparator c = false := by
    rw [Bool.eq_false_iff]
    intro cut
    rcases (by simpa [isSeparator] using cut : c = '-' ∨ c = '_') with rfl | rfl <;> cases letter
  have capital : Unicode.toUpper c = [c.toUpper] := by
    have bounds := bounds_of_isAlpha letter
    have small : c.toNat < 128 := show c.val.toNat < 128 by omega
    rw [Unicode.toUpper, if_pos small]
  unfold moduleName
  rw [String.toList_ofList, moduleChars, begins, Text.splitChars, if_neg (by simp [kept])]
  split <;> simp [capitalizeChars, capital]

end ClientGem.Ruby
